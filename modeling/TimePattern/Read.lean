import TimePattern.Pattern
import TimePattern.Field

/-!
# Reading

A pattern reads a text directive by directive, from left to right, and gathers what it finds in
a stamp. The first directive that does not match ends the reading; text behind the last
directive is left over.

* `Directive.scan?`     what a built-in directive finds at the front of a text, whatever was
  read before
* `Pattern.read`        reading with a pattern from the default stamp on
* `readFrom_append`     reading with two lists of directives, one after the other
-/

namespace TimePattern

/-- What a directive has found out about the stamp. -/
inductive Update where
  | nothing
  | year (year : Int32)
  | month (month : Month)
  | day (day : UInt8)
  | hour (hour : UInt8)
  | minute (minute : UInt8)
  | second (second : UInt8)
  /-- The whole date and time, but not the offset. -/
  | dateAndTime (date : Date) (time : TimeOfDay)
  | offset (minutes : Int32)
  deriving DecidableEq

/-- Writes the finding into a stamp. -/
def Update.apply (s : Stamp) : Update → Stamp
  | nothing => s
  | year y => { s with date := { s.date with year := y } }
  | month m => { s with date := { s.date with month := m } }
  | day d => { s with date := { s.date with day := d } }
  | hour h => { s with time := { s.time with hour := h } }
  | minute m => { s with time := { s.time with minute := m } }
  | second sec => { s with time := { s.time with second := sec } }
  | dateAndTime date time => { s with date, time }
  | offset minutes => { s with offsetMinutes := minutes }

/-- Why a directive does not match. -/
inductive Cause where
  /-- The text does not begin with what the directive stands for. -/
  | expected (what : String)
  /-- The epoch seconds that were read lie outside the time line. -/
  | epochOutOfRange (seconds : Nat)
  /-- The directive is the caller's own and gives this reason. -/
  | custom (message : String)
  deriving DecidableEq

/-- The text of the diagnostic, where `found` is the text that did not match. At most eight
    characters of it are shown. -/
def Cause.message (found : List Char) : Cause → String
  | expected what =>
    "expected " ++ what ++ ", found " ++
      (if found = [] then "end of input" else String.ofList (quoteText (found.take 8)))
  | epochOutOfRange seconds =>
    "epoch seconds " ++ String.ofList (Decimal.ofNat 1 seconds) ++ " are out of range"
  | custom message => message

/-- A reading that ended at a directive that does not match. -/
structure Mismatch where
  directive : Directive
  /-- What the directives before it found. -/
  soFar : Stamp
  cause : Cause
  /-- The text from that directive on. -/
  rest : List Char

/-- The reason, with what was found in place of what was expected. -/
def Mismatch.detail (e : Mismatch) : String := e.cause.message e.rest

/-- The text of the diagnostic. -/
def Mismatch.message (e : Mismatch) : String :=
  "cannot parse " ++ e.directive.label ++ " at " ++ String.ofList (quoteText e.rest) ++ ": " ++
    e.detail

/-- Why a reading failed: the text does not match, or the pattern cannot be read at all. -/
inductive ReadError where
  | mismatch (e : Mismatch)
  | noRule (e : NoRule)

/-- A successful reading and the text behind it. -/
structure Reading where
  stamp : Stamp
  rest : List Char
  deriving DecidableEq

/-! ## Directives -/

/-- Reads a field and turns it into a finding. -/
def expecting {α : Type} (what : String) (field : Reader α) (finding : α → Except Cause Update)
    (text : List Char) : Except Cause (Update × List Char) :=
  match field text with
  | none => .error (.expected what)
  | some (a, rest) => (finding a).map (·, rest)

/-- The finding of a year. -/
def Update.ofYear (n : Nat) : Update := .year (Int32.ofNat n)

/-- The finding of a month number: 1 is January, and numbers beyond 12 wrap around. -/
def Update.ofMonth (n : Nat) : Update := .month (Month.ofOrdinal ((n : Int) - 1))

/-- The finding of an offset in minutes. -/
def Update.ofOffset (n : Int) : Update := .offset (Int32.ofInt n)

/-- The finding of epoch seconds: the date and time at UTC. -/
def Update.ofEpochSeconds (n : Nat) : Except Cause Update :=
  match civilOfEpochSeconds? n with
  | some (date, time) => .ok (.dateAndTime date time)
  | none => .error (.epochOutOfRange n)

/-- How a built-in directive reads. It is `none` for directives without a rule, and for custom
    directives, whose rule is their own. -/
def Directive.scan? : Directive → Option (List Char → Except Cause (Update × List Char))
  | year => some (expecting "a year" Field.year (.ok ∘ .ofYear))
  | year4 => some (expecting "a 4-digit year" (Field.fixedDigits 4) (.ok ∘ .ofYear))
  | year2 => some (expecting "a 2-digit year" Field.yearTwoDigit (.ok ∘ .ofYear))
  | month => some (expecting "a month" Field.shortDigits (.ok ∘ .ofMonth))
  | month2 => some (expecting "a 2-digit month" (Field.fixedDigits 2) (.ok ∘ .ofMonth))
  | day => some (expecting "a day" Field.shortDigits (.ok ∘ .day ∘ UInt8.ofNat))
  | day2 => some (expecting "a 2-digit day" (Field.fixedDigits 2) (.ok ∘ .day ∘ UInt8.ofNat))
  | hour => some (expecting "a 2-digit hour" (Field.fixedDigits 2) (.ok ∘ .hour ∘ UInt8.ofNat))
  | minute =>
    some (expecting "a 2-digit minute" (Field.fixedDigits 2) (.ok ∘ .minute ∘ UInt8.ofNat))
  | second =>
    some (expecting "a 2-digit second" (Field.fixedDigits 2) (.ok ∘ .second ∘ UInt8.ofNat))
  | unixSecond => some (expecting "epoch seconds" Field.epochSeconds Update.ofEpochSeconds)
  | offsetColon => some (expecting "an offset like +HH:MM" Field.offsetColon (.ok ∘ .ofOffset))
  | offsetCompact =>
    some (expecting "an offset like +HHMM" Field.offsetCompact (.ok ∘ .ofOffset))
  | offsetMinutes => some (expecting "offset minutes" Field.offsetMinutes (.ok ∘ .ofOffset))
  | literal c =>
    some (expecting (String.ofList (quoteChar c)) (Field.literal c) fun _ => .ok .nothing)
  | monthShort | dayOfYear | zoneName | space | custom _ => none

/-- Reads one directive with `soFar` found before it. A directive without a rule is an error of
    its own. -/
def Directive.read (d : Directive) (soFar : Stamp) (text : List Char) :
    Except ReadError Reading :=
  match d with
  | .custom own =>
    -- The report shows what the reader was handed, whatever it has done with it
    match own.reader soFar text with
    | .ok (stamp, rest) => .ok ⟨stamp, rest⟩
    | .error message => .error (.mismatch ⟨d, soFar, .custom message, text⟩)
  | _ =>
    match d.scan? with
    | none => .error (.noRule ⟨d⟩)
    | some scan =>
      match scan text with
      | .ok (update, rest) => .ok ⟨update.apply soFar, rest⟩
      | .error cause => .error (.mismatch ⟨d, soFar, cause, text⟩)

/-! ## Patterns -/

/-- Reads directives one after the other, with `soFar` found before them. -/
def readFrom (soFar : Stamp) (text : List Char) : List Directive → Except ReadError Reading
  | [] => .ok ⟨soFar, text⟩
  | d :: ds =>
    match d.read soFar text with
    | .ok r => readFrom r.stamp r.rest ds
    | .error e => .error e

/-- Reads a text. Fields that no directive finds keep their default. -/
def Pattern.read (p : Pattern) (text : List Char) : Except ReadError Reading :=
  readFrom default text p.directives

/-- The stamp that a text denotes, or `none` if it does not match. A pattern that cannot be
    read is still an error. -/
def Pattern.read? (p : Pattern) (text : List Char) : Except NoRule (Option Stamp) :=
  match p.read text with
  | .ok r => .ok (some r.stamp)
  | .error (.mismatch _) => .ok none
  | .error (.noRule e) => .error e

/-- Reading with two lists of directives, one after the other. -/
theorem readFrom_append (soFar : Stamp) (text : List Char) (ds es : List Directive) :
    readFrom soFar text (ds ++ es) =
      (readFrom soFar text ds).bind fun r => readFrom r.stamp r.rest es := by
  induction ds generalizing soFar text with
  | nil => rfl
  | cons d ds ih =>
    simp only [List.cons_append, readFrom]
    cases d.read soFar text with
    | ok r => exact ih r.stamp r.rest
    | error e => rfl

end TimePattern
