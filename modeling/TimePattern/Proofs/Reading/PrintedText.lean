import Mathlib.Data.List.Chain
import TimePattern.Print
import TimePattern.Proofs.Calendar.CivilTime
import TimePattern.Proofs.Field.WrittenNumber
import TimePattern.Proofs.Reading.Finds
import TimePattern.Proofs.Stamp.Overlay

/-!
# Reading what was printed

A directive that has room for what it prints finds it again. Directives one after the other do
so if none of them that takes a run of digits has a digit printed behind it.

## Key results

- `Directive.finds_print`: one directive finds what it printed
- `readFrom_print`: so do directives one after the other, before any text that ends a run
- `Pattern.read_print_append`: a pattern reads the parts of the stamp that it printed
-/

namespace TimePattern

/-! ## Conditions -/

namespace Directive

/-- The directive takes as many digits as there are (a month or a day up to two of them). -/
def isGreedy : Directive → Bool
  | year | month | day | unixSecond | offsetMinutes => true
  | _ => false

/-- Whatever the directive prints begins with a character that is no digit. -/
def endsRun : Directive → Bool
  | offsetColon | offsetCompact => true
  | literal c => !c.isDigit
  | _ => false

/-- The directive prints its part of the stamp in full, in a form that it can read. -/
def Fits (s : Stamp) : Directive → Prop
  | year => 0 ≤ s.date.year.toInt
  | year4 => 0 ≤ s.date.year.toInt ∧ s.date.year.toInt ≤ 9999
  | year2 => 1970 ≤ s.date.year.toInt ∧ s.date.year.toInt ≤ 1999
  | month | month2 | literal _ => True
  | day | day2 => s.date.day.toNat ≤ 99
  | hour => s.time.hour.toNat ≤ 99
  | minute => s.time.minute.toNat ≤ 99
  | second => s.time.second.toNat ≤ 99
  | unixSecond =>
    s.date.IsReal ∧ s.time.IsWhole ∧ s.offsetMinutes = 0 ∧ 1970 ≤ s.date.year.toInt ∧
      s.date.year.toInt ≤ Date.lastYear
  | offsetColon | offsetCompact => s.offsetMinutes.toInt.natAbs ≤ 5999
  | offsetMinutes => s.offsetMinutes ≠ Int32.minValue
  | monthShort | dayOfYear | zoneName | space | custom _ => False

instance (s : Stamp) (d : Directive) : Decidable (d.Fits s) :=
  match d with
  | year => inferInstanceAs (Decidable (_ ≤ _))
  | year4 | year2 => inferInstanceAs (Decidable (_ ∧ _))
  | month | month2 | literal _ => inferInstanceAs (Decidable True)
  | day | day2 | hour | minute | second => inferInstanceAs (Decidable (_ ≤ _))
  | unixSecond => inferInstanceAs (Decidable (_ ∧ _))
  | offsetColon | offsetCompact => inferInstanceAs (Decidable (_ ≤ _))
  | offsetMinutes => inferInstanceAs (Decidable (_ ≠ _))
  | monthShort | dayOfYear | zoneName | space | custom _ => inferInstanceAs (Decidable False)

/-- What the directive finds in the text that it printed. -/
def carried (s : Stamp) : Directive → Update
  | year | year4 | year2 => .year s.date.year
  | month | month2 => .month s.date.month
  | day | day2 => .day s.date.day
  | hour => .hour s.time.hour
  | minute => .minute s.time.minute
  | second => .second s.time.second
  | unixSecond => .dateAndTime s.date s.time
  | offsetColon | offsetCompact | offsetMinutes => .offset s.offsetMinutes
  | monthShort | dayOfYear | zoneName | space | literal _ | custom _ => .nothing

end Directive

/-- A directive that takes a run of digits is the last one, or one follows that ends the run. -/
def Separated (ds : List Directive) : Prop :=
  ds.IsChain fun d e => d.isGreedy = true → e.endsRun = true

instance (ds : List Directive) : Decidable (Separated ds) :=
  inferInstanceAs (Decidable (ds.IsChain _))

/-! ## Findings -/

/-- A year that is not negative comes back from its digits. -/
theorem Update.ofYear_natAbs {y : Int32} (h : 0 ≤ y.toInt) :
    Update.ofYear y.toInt.natAbs = .year y := by
  have hlt := y.toInt_lt
  have hy : (Int32.ofNat y.toInt.natAbs).toInt = y.toInt := by
    rw [Int32.toInt_ofNat_of_lt (by omega)]
    omega
  rw [ofYear, Int32.toInt_inj.1 hy]

theorem Update.ofMonth_number (m : Month) : Update.ofMonth m.number = .month m := by
  simp [ofMonth, Month.number]

theorem Update.ofOffset_toInt (minutes : Int32) :
    Update.ofOffset minutes.toInt = .offset minutes := by
  simp [ofOffset]

/-- From 1970 on a real date at UTC has a number of seconds that is read again as this date. -/
theorem ofEpochSeconds_natAbs {s : Stamp} (hdate : s.date.IsReal) (htime : s.time.IsWhole)
    (hoffset : s.offsetMinutes = 0) (hfirst : 1970 ≤ s.date.year.toInt)
    (hlast : s.date.year.toInt ≤ Date.lastYear) :
    0 ≤ s.epochSeconds ∧ s.epochSeconds.natAbs ≤ 9223372036854775807 ∧
      Update.ofEpochSeconds s.epochSeconds.natAbs = .ok (.dateAndTime s.date s.time) := by
  have hseconds : s.epochSeconds = s.date.epochDay * 86400 + s.time.secondsOfDay := by
    simp [Stamp.epochSeconds, hoffset]
  obtain ⟨h0, hlt⟩ := TimeOfDay.secondsOfDay_bounds htime
  -- 1970 begins with day 0, and the line ends well before the largest number
  have hlo := (Date.january_le_epochDay_iff hdate 1970).2 hfirst
  have hhi := mt (Date.january_le_epochDay_iff hdate (Date.lastYear + 1)).1 (by omega)
  have hstart : dayNumber 1970 .january 1 = 0 := by decide
  have hend : dayNumber (Date.lastYear + 1) .january 1 ≤ 100000000 := by decide
  rw [hstart] at hlo
  have hcivil := civilOfEpochSeconds?_eq_some_iff.2
    ⟨hdate, htime, by simp only [Date.firstYear]; omega, hlast, hseconds⟩
  refine ⟨by omega, by omega, ?_⟩
  rw [Update.ofEpochSeconds, Int.natAbs_of_nonneg (by omega), hcivil]

namespace Directive

/-- A directive of two digits finds the part that was printed with two digits. -/
theorem finds_twoDigits {d : Directive} {what : String} {finding : UInt8 → Update}
    (hscan : d.scan? =
      some (expecting what (Field.fixedDigits 2) (.ok ∘ finding ∘ UInt8.ofNat)))
    {part : UInt8} (h : part.toNat ≤ 99) (text : List Char) :
    d.Finds (Decimal.ofNat 2 part.toNat ++ text) (finding part) text := by
  have hfield := Field.fixedDigits_ofNat (by decide) (show part.toNat < 10 ^ 2 by omega)
    (by omega) text
  refine finds_of_field hscan hfield ?_
  rw [Function.comp_apply, Function.comp_apply, UInt8.ofNat_toNat]

/-- A directive finds what it printed. -/
theorem finds_print {s : Stamp} {d : Directive} (hfits : d.Fits s) {text : List Char}
    (hends : d.isGreedy = true → Decimal.EndsRun text) :
    d.Finds (d.print s.moment ++ text) (d.carried s) text := by
  -- Each directive fits in its own way: bounds for the digits, or a digit that must not follow
  cases d with
  | year =>
    have h0 : 0 ≤ s.date.year.toInt := hfits
    have hmax := s.date.year.toInt_lt
    rw [print, Stamp.date_moment, Decimal.ofInt_of_nonneg h0]
    exact finds_of_field rfl (Field.boundedRun_ofNat (by omega) (hends rfl))
      (congrArg Except.ok (Update.ofYear_natAbs h0))
  | year4 =>
    obtain ⟨h0, hmax⟩ := hfits
    rw [print, Stamp.date_moment, Decimal.ofInt_of_nonneg h0]
    exact finds_of_field rfl (Field.fixedDigits_ofNat (by decide) (by omega) (by omega) text)
      (congrArg Except.ok (Update.ofYear_natAbs h0))
  | year2 =>
    -- Printed as 70 to 99, which are read as years of the twentieth century
    obtain ⟨hmin, hmax⟩ := hfits
    have hyear : 1900 + (s.date.year.toInt - 1900).natAbs = s.date.year.toInt.natAbs := by omega
    rw [print, Stamp.date_moment, Decimal.ofInt_of_nonneg (by omega)]
    exact finds_of_field rfl (Field.yearTwoDigit_ofNat (by omega) (by omega) text)
      (congrArg Except.ok (hyear ▸ Update.ofYear_natAbs (by omega)))
  | month =>
    have hmax := s.date.month.number_le
    rw [print, Stamp.date_moment]
    exact finds_of_field rfl (Field.shortDigits_ofNat (by omega) (hends rfl))
      (congrArg Except.ok (Update.ofMonth_number s.date.month))
  | month2 =>
    have hmax := s.date.month.number_le
    rw [print, Stamp.date_moment]
    exact finds_of_field rfl (Field.fixedDigits_ofNat (by decide) (by omega) (by omega) text)
      (congrArg Except.ok (Update.ofMonth_number s.date.month))
  | day =>
    exact finds_of_field rfl (Field.shortDigits_ofNat (Nat.lt_succ_of_le hfits) (hends rfl))
      (congrArg Except.ok (congrArg Update.day UInt8.ofNat_toNat))
  | day2 => exact finds_twoDigits rfl hfits text
  | hour => exact finds_twoDigits rfl hfits text
  | minute => exact finds_twoDigits rfl hfits text
  | second => exact finds_twoDigits rfl hfits text
  | unixSecond =>
    obtain ⟨hdate, htime, hoffset, hfirst, hlast⟩ := hfits
    obtain ⟨h0, hmax, hcivil⟩ := ofEpochSeconds_natAbs hdate htime hoffset hfirst hlast
    rw [print, Stamp.epochSeconds_moment, Decimal.ofInt_of_nonneg h0]
    exact finds_of_field rfl (Field.boundedRun_ofNat hmax (hends rfl)) hcivil
  | offsetColon =>
    exact finds_of_field rfl (Field.offsetColon_colon hfits text)
      (congrArg Except.ok (Update.ofOffset_toInt s.offsetMinutes))
  | offsetCompact =>
    exact finds_of_field rfl (Field.offsetCompact_compact hfits text)
      (congrArg Except.ok (Update.ofOffset_toInt s.offsetMinutes))
  | offsetMinutes =>
    -- Minutes are read without their sign, so the least offset has no room
    have hlo := s.offsetMinutes.le_toInt
    have hhi := s.offsetMinutes.toInt_lt
    have hmin : s.offsetMinutes.toInt ≠ -2 ^ 31 := fun h => hfits (Int32.toInt_inj.1 h)
    rw [print, Stamp.offsetMinutes_moment]
    exact finds_of_field rfl (Field.offsetMinutes_ofInt (by omega) (hends rfl))
      (congrArg Except.ok (Update.ofOffset_toInt s.offsetMinutes))
  | literal c => exact finds_of_field rfl (Field.literal_self c text) rfl
  | monthShort | dayOfYear | zoneName | space | custom d => exact absurd hfits id

/-- What a directive finds in its own text are the parts of the stamp that it writes. -/
theorem apply_carried (s base : Stamp) (d : Directive) :
    (d.carried s).apply base = base.overlay s d.writes := by
  cases d <;> simp [carried, Update.apply, writes, Stamp.overlay]

/-- A directive reads what it printed, whatever was read before. -/
theorem read_print {s : Stamp} {d : Directive} (hfits : d.Fits s) {text : List Char}
    (hends : d.isGreedy = true → Decimal.EndsRun text) (soFar : Stamp) :
    d.read soFar (d.print s.moment ++ text) = .ok ⟨soFar.overlay s d.writes, text⟩ := by
  rw [(finds_print hfits hends).read, apply_carried]

/-- What such a directive prints ends a run of digits in front of it. -/
theorem endsRun_print {d : Directive} (h : d.endsRun = true) (m : Moment) (text : List Char) :
    Decimal.EndsRun (d.print m ++ text) := by
  have hsign : (Offset.sign m.offsetMinutes.toInt).isDigit = false := by
    unfold Offset.sign
    split <;> rfl
  -- Offsets begin with their sign
  cases d <;> simp only [endsRun, Bool.false_eq_true] at h
  case offsetColon => exact Decimal.endsRun_cons.2 hsign
  case offsetCompact => exact Decimal.endsRun_cons.2 hsign
  case literal c => exact Decimal.endsRun_cons.2 (by simpa using h)

end Directive

/-! ## Patterns -/

/-- Separated directives read what they printed, and leave the text behind it. If the last of
    them takes a run of digits, that text has to end it. -/
theorem readFrom_print {s : Stamp} {ds : List Directive} (hfits : ∀ d ∈ ds, d.Fits s)
    (hsep : Separated ds) {text : List Char}
    (hends : ∀ d ∈ ds.getLast?, d.isGreedy = true → Decimal.EndsRun text) (soFar : Stamp) :
    readFrom soFar (ds.flatMap (·.print s.moment) ++ text) ds =
      .ok ⟨soFar.overlay s (ds.flatMap Directive.writes), text⟩ := by
  -- The directives behind the first one begin with what it has read, hence any `soFar`
  induction ds generalizing soFar with
  | nil => simp [readFrom]
  | cons d ds ih =>
    obtain ⟨hnext, hsep'⟩ := List.isChain_cons.1 hsep
    -- What ends the first run of digits is the next directive's text, or else `text`
    have hbehind : d.isGreedy = true →
        Decimal.EndsRun (ds.flatMap (·.print s.moment) ++ text) := by
      intro hgreedy
      cases ds with
      | nil => exact hends d rfl hgreedy
      | cons e es =>
        rw [List.flatMap_cons, List.append_assoc]
        exact Directive.endsRun_print (hnext e rfl hgreedy) _ _
    have hends' : ∀ e ∈ ds.getLast?, e.isGreedy = true → Decimal.EndsRun text := by
      intro e he
      apply hends e
      rw [List.getLast?_cons, Option.mem_def.1 he]
      rfl
    -- The first directive, and then the others from the stamp that it leaves
    have hread := Directive.read_print (hfits d List.mem_cons_self) hbehind soFar
    have hrest := ih (fun e he => hfits e (List.mem_cons_of_mem d he)) hsep' hends'
      (soFar.overlay s d.writes)
    rw [List.flatMap_cons, List.flatMap_cons, List.append_assoc, readFrom, hread]
    dsimp only
    rw [hrest, Stamp.overlay_overlay]

/-- What a pattern printed for a stamp is read with the same pattern, up to the end of the
    printed text: each part that one of the directives writes is the stamp's own, and the others
    keep their default. -/
theorem Pattern.read_print_append {s : Stamp} {p : Pattern} (hfits : ∀ d ∈ p.directives, d.Fits s)
    (hsep : Separated p.directives) {text : List Char} (htext : Decimal.EndsRun text) :
    p.read (p.print s.moment ++ text) =
      .ok ⟨(default : Stamp).overlay s (p.directives.flatMap Directive.writes), text⟩ :=
  readFrom_print hfits hsep (fun _ _ _ => htext) default

/-- A leap day, printed as `1996-2-29230509825635109+00:0096/29` and read before a letter. -/
theorem Pattern.read_print_append_leapDay :
    let s : Stamp := ⟨⟨1996, .february, 29⟩, ⟨23, 5, 9, 0⟩, 0⟩
    let p : Pattern := ⟨[.year, .literal '-', .month, .literal '-', .day2, .hour, .minute,
      .second, .unixSecond, .offsetColon, .year2, .literal '/', .day]⟩
    (∀ d ∈ p.directives, d.Fits s) ∧ Separated p.directives ∧ Decimal.EndsRun ['Z'] ∧
      p.read (p.print s.moment ++ ['Z']) = .ok ⟨s, ['Z']⟩ :=
  ⟨by decide, by decide, by decide,
    Pattern.read_print_append (by decide) (by decide) (by decide)⟩

end TimePattern
