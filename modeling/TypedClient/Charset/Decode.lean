import TypedClient.Charset.Basic
import TypedClient.Text.Utf8

/-!
Characters from bytes in each of the character sets of the web. What cannot be read leaves a mark
and never ends the reading; a byte that may begin something else is not lost with it.
-/

namespace TypedClient.Charset

open Text

/-- Reads bytes one step after the other. A step sees a byte and those behind it, and says which
characters they give and how many of the bytes behind are used up. -/
def decodeSteps (step : Nat → List Nat → List Char × Nat) (bs : List Nat) : List Char :=
  match bs with
  | [] => []
  | b :: rest =>
    let (cs, used) := step b rest
    cs ++ decodeSteps step (rest.drop used)
termination_by bs.length
decreasing_by
  rw [List.length_drop, List.length_cons]
  omega

/-- The mark, and whether a byte in the second place is used up with it: only if it is not ASCII. -/
def malformed (second : Nat) : List Char × Nat :=
  ([replacement], if second < 0x80 then 0 else 1)

/-- A character that uses up so many bytes; a mark if there is none. -/
def foundOr (c : Option Char) (used : Nat) (otherwise : List Char × Nat) : List Char × Nat :=
  match c with
  | some c => ([c], used)
  | none => otherwise

/-! ### One byte -/

/-- A step in a set of one byte. -/
def stepOneByte (upper : Table) (b : Nat) (_ : List Nat) : List Char × Nat :=
  if b < 0x80 then ([Char.ofNat b], 0)
  else ([(upper.at? ((b - 0x80) / 16) ((b - 0x80) % 16)).getD replacement], 0)

/-- A step in ASCII with private characters. -/
def stepPrivate (b : Nat) (_ : List Nat) : List Char × Nat :=
  ([Char.ofNat (if b < 0x80 then b else 0xF780 + (b - 0x80))], 0)

/-! ### Two bytes -/

/-- Whether a byte can be the first of two in most sets. -/
def isLead (b : Nat) : Bool :=
  0x81 ≤ b && b ≤ 0xFE

/-- A step in a set where a first byte from 0x81 on takes a second. -/
def stepTwoBytes (char? : Nat → Nat → Option (List Char)) (b : Nat) (rest : List Nat) :
    List Char × Nat :=
  if b < 0x80 then ([Char.ofNat b], 0)
  else if !isLead b then ([replacement], 0)
  else match rest with
    | [] => ([replacement], 0)
    | s :: _ => match char? b s with
      | some cs => (cs, 1)
      | none => malformed s

/-- The Hangul character of two bytes. -/
def hangul? (b s : Nat) : Option (List Char) :=
  if 0x41 ≤ s ∧ s ≤ 0xFE then (hangulTable.at? (b - 0x81) (s - 0x41)).map ([·]) else none

/-- The Big5 character of two bytes. Four of them are a letter and a mark above it. -/
def big5? (b s : Nat) : Option (List Char) :=
  if b = 0x88 ∧ s = 0x62 then some [Char.ofNat 0xCA, Char.ofNat 0x304]
  else if b = 0x88 ∧ s = 0x64 then some [Char.ofNat 0xCA, Char.ofNat 0x30C]
  else if b = 0x88 ∧ s = 0xA3 then some [Char.ofNat 0xEA, Char.ofNat 0x304]
  else if b = 0x88 ∧ s = 0xA5 then some [Char.ofNat 0xEA, Char.ofNat 0x30C]
  else if 0x40 ≤ s ∧ s ≤ 0x7E then (big5Table.at? (b - 0x81) (s - 0x40)).map ([·])
  else if 0xA1 ≤ s ∧ s ≤ 0xFE then (big5Table.at? (b - 0x81) (s - 0x62)).map ([·])
  else none

/-- The character of two bytes in GB 18030. -/
def gb? (b s : Nat) : Option Char :=
  if 0x40 ≤ s ∧ s ≤ 0x7E then gbTable.at? (b - 0x81) (s - 0x40)
  else if 0x80 ≤ s ∧ s ≤ 0xFE then gbTable.at? (b - 0x81) (s - 0x41)
  else none

/-! ### Four bytes -/

/-- Whether a byte is an ASCII digit. -/
def isDigitByte (b : Nat) : Bool :=
  0x30 ≤ b && b ≤ 0x39

/-- The code point with a number in the ranges. -/
def rangeChar? (index : Nat) : List (Nat × Nat) → Option Nat
  | [] => none
  | (first, n) :: ranges =>
    if index < first then none else some ((rangeChar? index ranges).getD (n + (index - first)))

/-- The character with a number among those of four bytes. -/
def gbFourBytes? (index : Nat) : Option Char :=
  if index = 7457 then some (Char.ofNat 0xE7C7)
  else if index ≤ 39419 then (rangeChar? index gbRanges).map Char.ofNat
  else if 189000 ≤ index ∧ index ≤ 1237575 then some (Char.ofNat (0x10000 + (index - 189000)))
  else none

/-- A step in GB 18030. -/
def stepGb (b : Nat) (rest : List Nat) : List Char × Nat :=
  if b < 0x80 then ([Char.ofNat b], 0)
  else if b = 0x80 then ([Char.ofNat 0x20AC], 0)
  else if !isLead b then ([replacement], 0)
  else match rest with
    | [] => ([replacement], 0)
    | s :: rest =>
      if isDigitByte s then
        match rest with
        | [] => ([replacement], 1)
        | t :: rest =>
          if isLead t then
            match rest with
            | [] => ([replacement], 2)
            | f :: _ =>
              if isDigitByte f then
                let index := (((b - 0x81) * 10 + (s - 0x30)) * 126 + (t - 0x81)) * 10 + (f - 0x30)
                foundOr (gbFourBytes? index) 3 ([replacement], 3)
              else ([replacement], 0)
          else ([replacement], 0)
      else foundOr (gb? b s) 1 (malformed s)

/-! ### Japanese -/

/-- Whether a byte lies in the upper half of a JIS plane. -/
def isUpperJis (b : Nat) : Bool :=
  0xA1 ≤ b && b ≤ 0xFE

/-- A narrow katakana by its place. -/
def narrowKatakana (n : Nat) : Char :=
  Char.ofNat (0xFF61 + n)

/-- A step in the extended Unix code for Japanese. -/
def stepEucJp (b : Nat) (rest : List Nat) : List Char × Nat :=
  if b < 0x80 then ([Char.ofNat b], 0)
  else if !(b = 0x8E || b = 0x8F || isUpperJis b) then ([replacement], 0)
  else match rest with
    | [] => ([replacement], 0)
    | s :: rest =>
      if b = 0x8E ∧ 0xA1 ≤ s ∧ s ≤ 0xDF then ([narrowKatakana (s - 0xA1)], 1)
      else if b = 0x8F ∧ isUpperJis s then
        match rest with
        | [] => ([replacement], 1)
        | t :: _ =>
          foundOr (if isUpperJis t then jisSupplement.at? (s - 0xA1) (t - 0xA1) else none) 2
            ([replacement], if t < 0x80 then 1 else 2)
      else
        foundOr (if isUpperJis b && isUpperJis s then jisTable.at? (b - 0xA1) (s - 0xA1) else none)
          1 (malformed s)

/-- The character of two bytes in Shift JIS. -/
def shiftJis? (b s : Nat) : Option (List Char) :=
  if (0x40 ≤ s ∧ s ≤ 0x7E) ∨ (0x80 ≤ s ∧ s ≤ 0xFC) then
    let index := (b - if b < 0xA0 then 0x81 else 0xC1) * 188 + (s - if s < 0x7F then 0x40 else 0x41)
    if 8836 ≤ index ∧ index ≤ 10715 then some [Char.ofNat (0xE000 + (index - 8836))]
    else (jisTable.at? (index / 94) (index % 94)).map ([·])
  else none

/-- A step in Shift JIS. -/
def stepShiftJis (b : Nat) (rest : List Nat) : List Char × Nat :=
  if b ≤ 0x80 then ([Char.ofNat b], 0)
  else if 0xA1 ≤ b ∧ b ≤ 0xDF then ([narrowKatakana (b - 0xA1)], 0)
  else if (0x81 ≤ b ∧ b ≤ 0x9F) ∨ (0xE0 ≤ b ∧ b ≤ 0xFC) then stepTwoBytes shiftJis? b rest
  else ([replacement], 0)

/-- What the bytes of ISO-2022-JP stand for. -/
inductive JisMode where
  | ascii
  | roman
  | katakana
  | twoBytes

/-- The mode that two bytes behind an escape switch to. -/
def JisMode.ofEscape? (a b : Nat) : Option JisMode :=
  if a = 0x28 ∧ b = 0x42 then some .ascii
  else if a = 0x28 ∧ b = 0x4A then some .roman
  else if a = 0x28 ∧ b = 0x49 then some .katakana
  else if a = 0x24 ∧ (b = 0x40 ∨ b = 0x42) then some .twoBytes
  else none

/-- The character of one byte in a mode. -/
def JisMode.char? (m : JisMode) (b : Nat) : Option Char :=
  match m with
  | .katakana => if 0x21 ≤ b ∧ b ≤ 0x5F then some (narrowKatakana (b - 0x21)) else none
  | .twoBytes => none
  | _ =>
    if 0x80 ≤ b ∨ b = 0x0E ∨ b = 0x0F then none
    else match m with
      | .roman =>
        if b = 0x5C then some (Char.ofNat 0xA5)
        else if b = 0x7E then some (Char.ofNat 0x203E)
        else some (Char.ofNat b)
      | _ => some (Char.ofNat b)

/-- Characters from ISO-2022-JP. An escape right behind another leaves a mark. -/
def decodeIso2022Jp (mode : JisMode) (escaped : Bool) (bs : List Nat) : List Char :=
  match bs with
  | [] => []
  | b :: rest =>
    if b = 0x1B then
      match rest with
      | a :: c :: more =>
        match JisMode.ofEscape? a c with
        | some next => (if escaped then [replacement] else []) ++ decodeIso2022Jp next true more
        | none => replacement :: decodeIso2022Jp mode false (a :: c :: more)
      | short => replacement :: decodeIso2022Jp mode false short
    else match mode with
      | .twoBytes =>
        if 0x21 ≤ b ∧ b ≤ 0x7E then
          match rest with
          | [] => [replacement]
          | s :: more =>
            if s = 0x1B then replacement :: decodeIso2022Jp mode false (s :: more)
            else
              let c := if 0x21 ≤ s ∧ s ≤ 0x7E then jisTable.at? (b - 0x21) (s - 0x21) else none
              c.getD replacement :: decodeIso2022Jp mode false more
        else replacement :: decodeIso2022Jp mode false rest
      | _ => ((mode.char? b).getD replacement) :: decodeIso2022Jp mode false rest
termination_by bs.length

/-! ### Units of 16 bits -/

/-- A step in units of 16 bits. -/
def stepUtf16 (bigEndian : Bool) (b : Nat) (rest : List Nat) : List Char × Nat :=
  let unit := fun a c : Nat => if bigEndian then a * 256 + c else c * 256 + a
  match rest with
  | [] => ([replacement], 0)
  | c :: rest =>
    let n := unit b c
    if 0xDC00 ≤ n ∧ n ≤ 0xDFFF then ([replacement], 1)
    else if 0xD800 ≤ n ∧ n ≤ 0xDBFF then
      match rest with
      | d :: e :: _ =>
        let low := unit d e
        if 0xDC00 ≤ low ∧ low ≤ 0xDFFF then
          ([Char.ofNat ((n - 0xD800) * 0x400 + (low - 0xDC00) + 0x10000)], 3)
        else ([replacement], 1)
      | short => ([replacement], 1 + short.length)
    else ([Char.ofNat n], 1)

/-! ### Any set -/

/-- The characters of bytes in a set. -/
def decode (s : Charset) (bs : List UInt8) : List Char :=
  let ns := bs.map UInt8.toNat
  match s with
  | .utf8 => decodeUtf8 bs
  | .utf16 bigEndian => decodeSteps (stepUtf16 bigEndian) ns
  | .oneByte upper => decodeSteps (stepOneByte upper) ns
  | .privateUse => decodeSteps stepPrivate ns
  | .gb18030 => decodeSteps stepGb ns
  | .big5 => decodeSteps (stepTwoBytes big5?) ns
  | .eucJp => decodeSteps stepEucJp ns
  | .iso2022Jp => decodeIso2022Jp .ascii false ns
  | .shiftJis => decodeSteps stepShiftJis ns
  | .eucKr => decodeSteps (stepTwoBytes hangul?) ns
  | .unreadable => if bs = [] then [] else [replacement]

/-- The set that a mark at the front of bytes names, and the bytes behind the mark. -/
def ofMark? : List UInt8 → Option (Charset × List UInt8)
  | 0xEF :: 0xBB :: 0xBF :: bs => some (.utf8, bs)
  | 0xFE :: 0xFF :: bs => some (.utf16 true, bs)
  | 0xFF :: 0xFE :: bs => some (.utf16 false, bs)
  | _ => none

/-- The text of bytes: in the set that a mark at their front names, else in the given one. -/
def decodeText (s : Charset) (bs : List UInt8) : String :=
  match ofMark? bs with
  | some (marked, rest) => String.ofList (marked.decode rest)
  | none => String.ofList (s.decode bs)

end TypedClient.Charset
