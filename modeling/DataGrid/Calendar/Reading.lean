import DataGrid.Calendar.Instant
import DataGrid.Text.Blank
import DataGrid.Text.Digits

/-!
# DataGrid.Calendar.Reading -- date-times in text

Three families of shapes are tried in order, after trimming:

1. the internet shape: fixed widths, `T`, `t` or a space between date and time, and `Z`
   or an offset with a colon;
2. date, time and offset with lenient fields: numbers of one or two digits, white space
   before each of them, years of any length behind a sign;
3. the same without an offset, taken as UTC, once a suffix ` UTC` or `Z` is cut off.

Each reader takes the characters that are left and gives back what it read together with
the rest.
-/

namespace DataGrid.Calendar.Reading

open DataGrid.Text (digitsValue isBlank trimStart trimEnd trim)

/-- A reader of one part of a text. -/
abbrev Reader (α : Type) := List Char → Option (α × List Char)

/-- Up to `most` decimal digits, at least `least` of them. -/
def number (least most : Nat) : Reader Nat := fun cs =>
  let digits := (cs.take most).takeWhile Char.isDigit
  if digits.length < least then none else some (digitsValue digits, cs.drop digits.length)

/-- All decimal digits that follow, at least one. -/
def longNumber : Reader Nat := fun cs =>
  let digits := cs.takeWhile Char.isDigit
  if digits.isEmpty then none else some (digitsValue digits, cs.drop digits.length)

/-- Exactly this character. -/
def char (expected : Char) : List Char → Option (List Char)
  | c :: rest => if c = expected then some rest else none
  | [] => none

/-- An optional fraction of a second: a point must be followed by a digit, and digits
beyond the ninth do not count. -/
def fraction : Reader Nat
  | '.' :: rest =>
    let digits := (rest.take 9).takeWhile Char.isDigit
    if digits.isEmpty then none
    else some (digitsValue digits * Nat.pow 10 (9 - digits.length), rest.dropWhile Char.isDigit)
  | cs => some (0, cs)

/-- A sign; the typographic minus counts as one. -/
def sign : Reader Bool
  | '+' :: rest => some (false, rest)
  | '-' :: rest => some (true, rest)
  | c :: rest => if c.toNat = 0x2212 then some (true, rest) else none
  | [] => none

/-- An offset in seconds: sign, two digits of hours, a separator, two digits of minutes.
A day or more is no offset. -/
def offset (separator : List Char → Option (List Char)) : Reader Int := fun cs => do
  let (negative, cs) ← sign cs
  let (hours, cs) ← number 2 2 cs
  let cs ← separator cs
  let (minutes, cs) ← number 2 2 cs
  let seconds := hours * 3600 + minutes * 60
  if minutes > 59 ∨ seconds ≥ 86400 then none
  else some (if negative then -(seconds : Int) else (seconds : Int), cs)

/-! ## The internet shape -/

/-- `Z` in either case, or an offset with a colon. -/
def zone : Reader Int
  | 'Z' :: rest | 'z' :: rest => some (0, rest)
  | cs => offset (char ':') cs

/-- What may stand between date and time. -/
def dateTimeSeparator : List Char → Option (List Char)
  | 'T' :: rest | 't' :: rest | ' ' :: rest => some rest
  | _ => none

/-- The whole text in the internet shape. -/
def internet? (cs : List Char) : Option Instant := do
  let (year, cs) ← number 4 4 cs
  let cs ← char '-' cs
  let (month, cs) ← number 2 2 cs
  let cs ← char '-' cs
  let (day, cs) ← number 2 2 cs
  let cs ← dateTimeSeparator cs
  let (hour, cs) ← number 2 2 cs
  let cs ← char ':' cs
  let (minute, cs) ← number 2 2 cs
  let cs ← char ':' cs
  let (second, cs) ← number 2 2 cs
  let (nanos, cs) ← fraction cs
  let (zoneOffset, cs) ← zone cs
  if cs.isEmpty then
    Fields.toInstant? ⟨⟨year, month, day⟩, hour, minute, second, nanos⟩ zoneOffset
  else none

/-! ## The lenient shapes -/

/-- A number of one or two digits after any white space. -/
def field : Reader Nat := fun cs => number 1 2 (trimStart cs)

/-- A year: one to four digits, or any number of them behind a sign. -/
def year : Reader Int := fun cs =>
  match trimStart cs with
  | '-' :: rest => (longNumber rest).map fun (n, rest) => (-(n : Int), rest)
  | '+' :: rest => (longNumber rest).map fun (n, rest) => ((n : Int), rest)
  | rest => (number 1 4 rest).map fun (n, rest) => ((n : Int), rest)

/-- A calendar date and a time of day. `separator` reads what stands between them. -/
def fields (separator : List Char → Option (List Char)) : Reader Fields := fun cs => do
  let (year, cs) ← year cs
  let cs ← char '-' cs
  let (month, cs) ← field cs
  let cs ← char '-' cs
  let (day, cs) ← field cs
  let cs ← separator cs
  let (hour, cs) ← field cs
  let cs ← char ':' cs
  let (minute, cs) ← field cs
  let cs ← char ':' cs
  let (second, cs) ← field cs
  let (nanos, cs) ← fraction cs
  some (⟨⟨year, month, day⟩, hour, minute, second, nanos⟩, cs)

/-- Any amount of white space, even none. -/
def anySpace (cs : List Char) : Option (List Char) := some (trimStart cs)

/-- Any mix of colons and white space. -/
def colonOrSpace (cs : List Char) : Option (List Char) :=
  some (cs.dropWhile fun c => c == ':' || isBlank c)

/-- The whole text as date, time and offset. -/
def withOffset? (separator : List Char → Option (List Char)) (cs : List Char) :
    Option Instant := do
  let (read, cs) ← fields separator cs
  let (zoneOffset, cs) ← offset colonOrSpace (trimStart cs)
  if cs.isEmpty then read.toInstant? zoneOffset else none

/-- The whole text as date and time in UTC. -/
def withoutOffset? (separator : List Char → Option (List Char)) (cs : List Char) :
    Option Instant := do
  let (read, cs) ← fields separator cs
  if cs.isEmpty then read.toInstant? 0 else none

/-- The text without the suffix, if it ends in it. -/
def stripSuffix? (suffix cs : List Char) : Option (List Char) :=
  if suffix.isSuffixOf cs then some (cs.take (cs.length - suffix.length)) else none

/-- One suffix that names UTC is cut off, and the white space before it. -/
def withoutZoneName (cs : List Char) : List Char :=
  trimEnd (((stripSuffix? " UTC".toList cs).or (stripSuffix? ['Z'] cs)).getD cs)

/-- The instant that trimmed characters name. -/
def trimmed? (cs : List Char) : Option Instant :=
  (internet? cs).or <| (withOffset? (char 'T') cs).or <| (withOffset? anySpace cs).or <|
    (withoutOffset? anySpace (withoutZoneName cs)).or
      (withoutOffset? (char 'T') (withoutZoneName cs))

/-- The instant that a text names in any of the supported shapes. -/
def instant? (text : String) : Option Instant := trimmed? (trim text.toList)

end DataGrid.Calendar.Reading
