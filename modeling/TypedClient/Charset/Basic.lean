import TypedClient.Charset.OneByte
import TypedClient.Charset.Japanese
import TypedClient.Charset.Korean
import TypedClient.Charset.SimplifiedChinese
import TypedClient.Charset.TraditionalChinese

/-!
The character sets of the web and the labels that name them.
-/

namespace TypedClient

open Charset

/-- A character set. -/
inductive Charset where
  | utf8
  | utf16 (bigEndian : Bool)
  /-- ASCII, with a table for the bytes from 0x80 on. -/
  | oneByte (upper : Table)
  /-- ASCII, with private characters for the bytes from 0x80 on. -/
  | privateUse
  | gb18030
  | big5
  | eucJp
  | iso2022Jp
  | shiftJis
  | eucKr
  /-- A set that is not read: any text in it is one mark. -/
  | unreadable

namespace Charset

/-- The sets with their labels, which are in lower case. -/
def labels : List (Charset × List String) := [
  (.utf8, [
    "unicode-1-1-utf-8", "unicode11utf8", "unicode20utf8", "utf-8", "utf8", "x-unicode20utf8"]),
  (.oneByte ibm866, [
    "866", "cp866", "csibm866", "ibm866"]),
  (.oneByte latin2, [
    "csisolatin2", "iso-8859-2", "iso-ir-101", "iso8859-2", "iso88592", "iso_8859-2",
    "iso_8859-2:1987", "l2", "latin2"]),
  (.oneByte latin3, [
    "csisolatin3", "iso-8859-3", "iso-ir-109", "iso8859-3", "iso88593", "iso_8859-3",
    "iso_8859-3:1988", "l3", "latin3"]),
  (.oneByte latin4, [
    "csisolatin4", "iso-8859-4", "iso-ir-110", "iso8859-4", "iso88594", "iso_8859-4",
    "iso_8859-4:1988", "l4", "latin4"]),
  (.oneByte latinCyrillic, [
    "csisolatincyrillic", "cyrillic", "iso-8859-5", "iso-ir-144", "iso8859-5", "iso88595",
    "iso_8859-5", "iso_8859-5:1988"]),
  (.oneByte latinArabic, [
    "arabic", "asmo-708", "csiso88596e", "csiso88596i", "csisolatinarabic", "ecma-114",
    "iso-8859-6", "iso-8859-6-e", "iso-8859-6-i", "iso-ir-127", "iso8859-6", "iso88596",
    "iso_8859-6", "iso_8859-6:1987"]),
  (.oneByte latinGreek, [
    "csisolatingreek", "ecma-118", "elot_928", "greek", "greek8", "iso-8859-7", "iso-ir-126",
    "iso8859-7", "iso88597", "iso_8859-7", "iso_8859-7:1987", "sun_eu_greek"]),
  (.oneByte latinHebrew, [
    "csiso88598e", "csiso88598i", "csisolatinhebrew", "hebrew", "iso-8859-8", "iso-8859-8-e",
    "iso-8859-8-i", "iso-ir-138", "iso8859-8", "iso88598", "iso_8859-8", "iso_8859-8:1988",
    "logical", "visual"]),
  (.oneByte latin6, [
    "csisolatin6", "iso-8859-10", "iso-ir-157", "iso8859-10", "iso885910", "l6", "latin6"]),
  (.oneByte latin7, [
    "iso-8859-13", "iso8859-13", "iso885913"]),
  (.oneByte latin8, [
    "iso-8859-14", "iso8859-14", "iso885914"]),
  (.oneByte latin9, [
    "csisolatin9", "iso-8859-15", "iso8859-15", "iso885915", "iso_8859-15", "l9"]),
  (.oneByte latin10, [
    "iso-8859-16"]),
  (.oneByte koi8r, [
    "cskoi8r", "koi", "koi8", "koi8-r", "koi8_r"]),
  (.oneByte koi8u, [
    "koi8-ru", "koi8-u"]),
  (.oneByte macintosh, [
    "csmacintosh", "mac", "macintosh", "x-mac-roman"]),
  (.oneByte thai, [
    "dos-874", "iso-8859-11", "iso8859-11", "iso885911", "tis-620", "windows-874"]),
  (.oneByte centralEuropean, [
    "cp1250", "windows-1250", "x-cp1250"]),
  (.oneByte cyrillic, [
    "cp1251", "windows-1251", "x-cp1251"]),
  (.oneByte western, [
    "ansi_x3.4-1968", "ascii", "cp1252", "cp819", "csisolatin1", "ibm819", "iso-8859-1",
    "iso-ir-100", "iso8859-1", "iso88591", "iso_8859-1", "iso_8859-1:1987", "l1", "latin1",
    "us-ascii", "windows-1252", "x-cp1252"]),
  (.oneByte greek, [
    "cp1253", "windows-1253", "x-cp1253"]),
  (.oneByte turkish, [
    "cp1254", "csisolatin5", "iso-8859-9", "iso-ir-148", "iso8859-9", "iso88599",
    "iso_8859-9", "iso_8859-9:1989", "l5", "latin5", "windows-1254", "x-cp1254"]),
  (.oneByte hebrew, [
    "cp1255", "windows-1255", "x-cp1255"]),
  (.oneByte arabic, [
    "cp1256", "windows-1256", "x-cp1256"]),
  (.oneByte baltic, [
    "cp1257", "windows-1257", "x-cp1257"]),
  (.oneByte vietnamese, [
    "cp1258", "windows-1258", "x-cp1258"]),
  (.oneByte macCyrillic, [
    "x-mac-cyrillic", "x-mac-ukrainian"]),
  (.gb18030, [
    "chinese", "csgb2312", "csiso58gb231280", "gb18030", "gb2312", "gb_2312", "gb_2312-80",
    "gbk", "iso-ir-58", "x-gbk"]),
  (.unreadable, [
    "csiso2022kr", "hz-gb-2312", "iso-2022-cn", "iso-2022-cn-ext", "iso-2022-kr",
    "replacement"]),
  (.big5, [
    "big5", "big5-hkscs", "cn-big5", "csbig5", "x-x-big5"]),
  (.eucJp, [
    "cseucpkdfmtjapanese", "euc-jp", "x-euc-jp"]),
  (.iso2022Jp, [
    "csiso2022jp", "iso-2022-jp"]),
  (.shiftJis, [
    "csshiftjis", "ms932", "ms_kanji", "shift-jis", "shift_jis", "sjis", "windows-31j",
    "x-sjis"]),
  (.eucKr, [
    "cseuckr", "csksc56011987", "euc-kr", "iso-ir-149", "korean", "ks_c_5601-1987",
    "ks_c_5601-1989", "ksc5601", "ksc_5601", "windows-949"]),
  (.utf16 true, [
    "unicodefffe", "utf-16be"]),
  (.utf16 false, [
    "csunicode", "iso-10646-ucs-2", "ucs-2", "unicode", "unicodefeff", "utf-16", "utf-16le"]),
  (.privateUse, [
    "x-user-defined"])]

/-- Whether a character is a blank around a label. -/
def isLabelBlank (c : Char) : Bool :=
  c = ' ' || c = '\t' || c = '\n' || c = '\r' || c = '\x0c'

/-- The set that a label names, in upper or lower case and with blanks around it. -/
def ofLabel? (label : String) : Option Charset :=
  let trimmed := ((label.toList.dropWhile isLabelBlank).reverse.dropWhile isLabelBlank).reverse
  let name := String.ofList (trimmed.map Char.toLower)
  (labels.find? (·.2.contains name)).map (·.1)

end Charset

end TypedClient
