import TypedClient.Json.Tree
import TypedClient.Json.Value

/-!
Reading typed values from a tree, in the order of the text. The first thing wrong ends the
reading. A container may only be entered while there is room: what is read lies at most 127
containers deep, and readers that call themselves recurse on the room that is left. What is
skipped may lie at any depth.
-/

namespace TypedClient.Json

/-- What reading gives, and the remarks made on the way, also if it fails. -/
structure Reading (α : Type) where
  remarks : List String
  result : Except Fault α

namespace Reading

/-- A result without remarks. -/
def of {α : Type} (r : Except Fault α) : Reading α :=
  ⟨[], r⟩

/-- A value without remarks. -/
def ok {α : Type} (a : α) : Reading α :=
  ⟨[], .ok a⟩

/-- A fault without remarks. -/
def fail {α : Type} (f : Fault) : Reading α :=
  ⟨[], .error f⟩

/-- A remark. -/
def remark (s : String) : Reading Unit :=
  ⟨[s], .ok ()⟩

/-- Goes on with the value read; a fault ends the reading. -/
def bind {α β : Type} (r : Reading α) (f : α → Reading β) : Reading β :=
  match r.result with
  | .ok a => ⟨r.remarks ++ (f a).remarks, (f a).result⟩
  | .error fault => ⟨r.remarks, .error fault⟩

instance : Monad Reading where
  pure := ok
  bind := bind

end Reading

/-- How many containers may lie inside one another where they are read. -/
def fullRoom : Nat := 127

/-! ### Skipping -/

mutual

/-- Passes over a value. -/
def Tree.skip : Tree → Except Fault Unit
  | .absent fault => .error fault
  | .word _ value _ => value.map fun _ => ()
  | .number _ _ skipped _ => skipped
  | .text _ _ skipped _ => skipped
  | .list _ items => items.skip
  | .object _ members => members.skip

/-- Passes over what follows inside a list. -/
def Items.skip : Items → Except Fault Unit
  | .closed _ => .ok ()
  | .broken stop => .error stop.skipped
  | .next _ value rest =>
    match value.skip with
    | .ok _ => rest.skip
    | .error fault => .error fault

/-- Passes over what follows inside an object. -/
def Members.skip : Members → Except Fault Unit
  | .closed _ => .ok ()
  | .broken stop => .error stop.skipped
  | .unnamed fault _ => .error fault
  | .next _ _ nameSkipped _ _ value rest =>
    match nameSkipped with
    | .error fault => .error fault
    | .ok _ =>
      match value.skip with
      | .ok _ => rest.skip
      | .error fault => .error fault

end

/-! ### Refusing -/

/-- What is said of a value that is not of the expected kind: what is wrong with it as such comes
first. -/
def Tree.wrongKind (expected : String) : Tree → Fault
  | .absent fault => fault
  | .word _ (.ok none) stop => ⟨.wrongKind .null expected, stop⟩
  | .word _ (.ok (some b)) stop => ⟨.wrongKind (.flag b) expected, stop⟩
  | .word _ (.error fault) _ => fault
  | .number _ (.ok n) _ stop => ⟨.wrongKind (.number n) expected, stop⟩
  | .number _ (.error fault) _ _ => fault
  | .text _ (.ok s) _ stop => ⟨.wrongKind (.text s) expected, stop⟩
  | .text _ (.error fault) _ _ => fault
  | .list start _ => ⟨.wrongKind .list expected, start⟩
  | .object start _ => ⟨.wrongKind .object expected, start⟩

/-- The place behind the bracket or brace that opens a container. -/
def Position.inside (start : Position) : Position :=
  start.pastFirstByte '['

/-- What is said where there is no room for the containers among `kinds`: of a list or object that
would be entered that it lies too deep, of any other value that it is of the wrong kind. -/
def Tree.refuse (lists objects : Bool) (expected : String) (t : Tree) : Fault :=
  match t with
  | .list start _ => if lists then ⟨.tooDeep, start.inside⟩ else t.wrongKind expected
  | .object start _ => if objects then ⟨.tooDeep, start.inside⟩ else t.wrongKind expected
  | _ => t.wrongKind expected

/-! ### Scalars -/

/-- Reads a text. -/
def Tree.readText (t : Tree) : Reading String :=
  match t with
  | .text _ (.ok s) _ _ => .ok s
  | _ => .fail (t.wrongKind "a string")

/-- Reads a truth value. -/
def Tree.readFlag (t : Tree) : Reading Bool :=
  match t with
  | .word _ (.ok (some b)) _ => .ok b
  | _ => .fail (t.wrongKind "a boolean")

/-- Reads what may be null. -/
def Tree.readOptional {α : Type} (read : Tree → Reading α) (t : Tree) : Reading (Option α) :=
  match t with
  | .word _ (.ok none) _ => .ok none
  | _ => do return some (← read t)

/-- Reads a null. -/
def Tree.readNull (t : Tree) : Reading Unit :=
  match t with
  | .word _ (.ok none) _ => .ok ()
  | _ => .fail (t.wrongKind "unit")

/-! ### Names out of a list -/

/-- The value of a name, or what is said if it has none. -/
def nameValue {α : Type} (names : List (String × α)) (given : String) (stop : Position) :
    Except Fault α :=
  match names.lookup given with
  | some a => .ok a
  | none => .error ⟨.unknownName given (names.map (·.1)), stop⟩

/-- Whether an object ends behind its first member. -/
def Members.leave : Members → Except Fault Unit
  | .closed _ => .ok ()
  | .broken stop => .error stop.left
  | .unnamed fault _ => .error fault
  | .next left _ _ _ _ _ _ => .error left

/-- Reads one of several names: as a text, or as an object with that one member, which is null. -/
def Tree.readName {α : Type} (names : List (String × α)) (room : Nat) (t : Tree) : Reading α :=
  match t with
  | .text _ (.ok s) _ stop => .of (nameValue names s stop)
  | .text _ (.error fault) _ _ => .fail fault
  | .object start members =>
    if room = 0 then .fail ⟨.tooDeep, start.inside⟩
    else match members with
      | .closed stop => .fail ⟨.expectedValue, stop⟩
      | .broken stop => .fail ⟨.endInValue, stop.read.position⟩
      | .unnamed _ instead => .fail (instead.wrongKind "variant identifier")
      | .next _ name _ nameStop _ value rest => do
        let a ← Reading.of (name.bind (nameValue names · nameStop))
        value.readNull
        Reading.of rest.leave
        return a
  | .absent fault => .fail fault
  | .word start _ _ => .fail ⟨.expectedValue, start.inside⟩
  | .number start _ _ _ => .fail ⟨.expectedValue, start.inside⟩
  | .list start _ => .fail ⟨.expectedValue, start.inside⟩

/-! ### Lists and objects of one kind of value -/

/-- Reads the values of a list. -/
def Items.readEach {α : Type} (read : Tree → Reading α) : Items → Reading (List α)
  | .closed _ => .ok []
  | .broken stop => .fail stop.read
  | .next _ value rest => do
    let a ← read value
    return a :: (← rest.readEach read)

/-- Reads a list; `read` takes what is inside. -/
def Tree.readList {α : Type} (read : Tree → Reading α) (room : Nat) (t : Tree) :
    Reading (List α) :=
  match room, t with
  | 0, _ => .fail (t.refuse true false "a sequence")
  | _ + 1, .list _ items => items.readEach read
  | _, _ => .fail (t.wrongKind "a sequence")

/-- Reads the members of an object; `read` also gets the name. -/
def Members.readEach {α : Type} (read : String → Tree → Reading α) :
    Members → Reading (List α)
  | .closed _ => .ok []
  | .broken stop => .fail stop.read
  | .unnamed fault _ => .fail fault
  | .next _ name _ _ _ value rest => do
    let name ← Reading.of name
    let a ← read name value
    return a :: (← rest.readEach read)

/-- Reads an object member by member; `read` takes what is inside. -/
def Tree.readObject {α : Type} (expected : String) (read : String → Tree → Reading α)
    (room : Nat) (t : Tree) : Reading (List α) :=
  match room, t with
  | 0, _ => .fail (t.refuse false true expected)
  | _ + 1, .object _ members => members.readEach read
  | _, _ => .fail (t.wrongKind expected)

/-! ### Records -/

/-- A member of a record, of which `σ` holds what was read so far. -/
structure RecordMember (σ : Type) where
  name : String
  /-- Whether it was read already. -/
  given : σ → Bool
  read : Tree → σ → Reading σ
  /-- Whether the record may be written as a list that ends in front of it. -/
  mayLack : Bool

/-- A record: an object with known members, or a list of their values in order. -/
structure Record (σ α : Type) where
  name : String
  members : List (RecordMember σ)
  /-- Nothing read yet. -/
  empty : σ
  /-- The record, or the name of the first member that is missing. -/
  finish : σ → Except String α

namespace Record

variable {σ α : Type}

/-- What a complaint calls the record. -/
def title (r : Record σ α) : String :=
  "struct " ++ r.name

/-- What a complaint about the length of a list calls the record. -/
def lengthTitle (r : Record σ α) : String :=
  r.title ++ " with " ++ toString r.members.length ++
    (if r.members.length = 1 then " element" else " elements")

/-- Reads the members of an object. A name that is not known is skipped with its value. -/
def readMembers (r : Record σ α) (s : σ) : Members → Reading (σ × Position)
  | .closed stop => .ok (s, stop)
  | .broken stop => .fail stop.read
  | .unnamed fault _ => .fail fault
  | .next _ name _ _ behindName value rest => do
    let name ← Reading.of name
    match r.members.find? (·.name = name) with
    | none =>
      Reading.of value.skip
      r.readMembers s rest
    | some m =>
      if m.given s then Reading.fail ⟨.repeatedMember name, behindName⟩
      else
        let s ← m.read value s
        r.readMembers s rest

/-- Reads the values of a list in the order of the members; `index` of them are behind. -/
def readItems (r : Record σ α) (index : Nat) (s : σ) :
    List (RecordMember σ) → Items → Reading (σ × Position)
  | [], .closed stop => .ok (s, stop)
  | [], .broken stop => .fail stop.left
  | [], .next left _ _ => .fail left
  | m :: ms, .closed stop =>
    if m.mayLack then r.readItems (index + 1) s ms (.closed stop)
    else .fail ⟨.wrongLength index r.lengthTitle, stop⟩
  | _ :: _, .broken stop => .fail stop.read
  | m :: ms, .next _ value rest => do
    let s ← m.read value s
    r.readItems (index + 1) s ms rest

/-- Ends a record whose text ends at the place. -/
def finishAt (r : Record σ α) (read : σ × Position) : Reading α :=
  match r.finish read.1 with
  | .ok a => .ok a
  | .error name => .fail ⟨.missingMember name, read.2⟩

/-- Reads a record where there is room for it; its members know the room inside. -/
def readInside (r : Record σ α) (t : Tree) : Reading α :=
  match t with
  | .object _ members => do r.finishAt (← r.readMembers r.empty members)
  | .list _ items => do r.finishAt (← r.readItems 0 r.empty r.members items)
  | _ => .fail (t.wrongKind r.title)

end Record

/-- Reads a record; `inside` is the record for the room that is left in it. -/
def Tree.readRecord {σ α : Type} (inside : Nat → Record σ α) (room : Nat) (t : Tree) :
    Reading α :=
  match room with
  | 0 => .fail (t.refuse true true (inside 0).title)
  | room + 1 => (inside room).readInside t

/-! ### Values of any kind -/

mutual

/-- Reads a value of any kind. -/
def Tree.readValue (room : Nat) : Tree → Except Fault Value
  | .absent fault => .error fault
  | .word _ value _ => value.map fun
    | none => .null
    | some b => .flag b
  | .number _ value _ _ => value.map .number
  | .text _ value _ _ => value.map .text
  | .list start items =>
    match room with
    | 0 => .error ⟨.tooDeep, start.inside⟩
    | room + 1 => (items.readValues room).map .list
  | .object start members =>
    match room with
    | 0 => .error ⟨.tooDeep, start.inside⟩
    | room + 1 => (members.readValues room).map .object

/-- Reads the values of a list. -/
def Items.readValues (room : Nat) : Items → Except Fault (List Value)
  | .closed _ => .ok []
  | .broken stop => .error stop.read
  | .next _ value rest =>
    match value.readValue room with
    | .error fault => .error fault
    | .ok v => (rest.readValues room).map (v :: ·)

/-- Reads the members of an object. -/
def Members.readValues (room : Nat) : Members → Except Fault (List (String × Value))
  | .closed _ => .ok []
  | .broken stop => .error stop.read
  | .unnamed fault _ => .error fault
  | .next _ name _ _ _ value rest =>
    match name with
    | .error fault => .error fault
    | .ok name =>
      match value.readValue room with
      | .error fault => .error fault
      | .ok v => (rest.readValues room).map ((name, v) :: ·)

end

/-! ### Whole texts -/

/-- Reads a whole text. Only blanks may follow the value. -/
def readString {α : Type} (read : Nat → Tree → Reading α) (s : String) : Reading α := do
  let document := Tree.ofString s
  let a ← read fullRoom document.value
  match document.trailing with
  | none => return a
  | some fault => Reading.fail fault

end TypedClient.Json
