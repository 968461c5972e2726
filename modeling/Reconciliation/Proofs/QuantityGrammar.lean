import Mathlib.Data.List.TakeWhile
import Reconciliation.Quantity

/-! # How quantities are written

A quantity is written as a number and a suffix right behind it, and blanks around them do not count. A number has at
most one sign, at most one point and at least one digit. A suffix is nothing, one of the letters, or the mark of an
exponent with a whole number of 32 bits. Reading accepts exactly what is written in this way and gives what is
written (`Quantity.read?_eq_some_iff`).

Which part of a text is the number is no question, as no suffix begins with a character of a number. The mark `E` is a
suffix by itself and in front of `i`, and an exponent in front of a sign or a digit.
-/

namespace Reconciliation

namespace Text

section Spans

variable {α : Type} {p : α → Bool} {body rest : List α}

/-- The longest beginning of which all items have a property, where the next one does not have it. -/
theorem takeWhile_append_of_stop (inside : ∀ a ∈ body, p a = true) (stop : ∀ a ∈ rest.head?, p a = false) :
    (body ++ rest).takeWhile p = body := by
  rw [List.takeWhile_append_of_pos inside]
  cases rest with
  | nil => exact List.append_nil _
  | cons a rest => rw [List.takeWhile_cons_of_neg (by simp [stop a rfl]), List.append_nil]

theorem dropWhile_append_of_stop (inside : ∀ a ∈ body, p a = true) (stop : ∀ a ∈ rest.head?, p a = false) :
    (body ++ rest).dropWhile p = rest := by
  rw [List.dropWhile_append_of_pos inside]
  cases rest with
  | nil => rfl
  | cons a rest => rw [List.dropWhile_cons_of_neg (by simp [stop a rfl])]

theorem stop_dropWhile (p : α → Bool) (items : List α) : ∀ a ∈ (items.dropWhile p).head?, p a = false := by
  intro a first
  simpa [Option.mem_def.mp first] using List.head?_dropWhile_not p items

end Spans

section Blanks

/-- A text of blanks only. -/
def IsBlanks (text : List Char) : Prop := ∀ c ∈ text, isBlank c = true

/-- A text is its trimmed form with blanks around it. -/
theorem exists_trim (text : List Char) :
    ∃ before after, text = before ++ trim text ++ after ∧ IsBlanks before ∧ IsBlanks after := by
  let rest := text.dropWhile isBlank
  refine ⟨text.takeWhile isBlank, (rest.reverse.takeWhile isBlank).reverse, ?_, fun c member => ?_, fun c member => ?_⟩
  · have back : trim text ++ (rest.reverse.takeWhile isBlank).reverse = rest := by
      rw [trim, ← List.reverse_append, List.takeWhile_append_dropWhile, List.reverse_reverse]
    rw [List.append_assoc, back, List.takeWhile_append_dropWhile]
  · exact List.mem_takeWhile_imp member
  · exact List.mem_takeWhile_imp (List.mem_reverse.mp member)

/-- A text that neither begins nor ends with a blank is what is left when blanks around it are trimmed. -/
theorem trim_eq {before core after : List Char} (front : IsBlanks before) (back : IsBlanks after)
    (first : ∀ c ∈ core.head?, isBlank c = false) (last : ∀ c ∈ core.getLast?, isBlank c = false)
    (nonempty : core ≠ []) : trim (before ++ core ++ after) = core := by
  have begins : ∀ c ∈ (core ++ after).head?, isBlank c = false := by
    obtain ⟨c, rest, rfl⟩ := List.exists_cons_of_ne_nil nonempty
    exact first
  have ends : ∀ c ∈ core.reverse.head?, isBlank c = false := by rwa [List.head?_reverse]
  rw [trim, List.append_assoc, dropWhile_append_of_stop front begins, List.reverse_append,
    dropWhile_append_of_stop (fun c member => back c (List.mem_reverse.mp member)) ends, List.reverse_reverse]

end Blanks

section Digits

/-- A text of decimal digits only. -/
def IsDigits (text : List Char) : Prop := ∀ c ∈ text, c.isDigit = true

/-- The values of the characters of a text of digits. -/
def digitValues (digits : List Char) : List Nat := digits.map fun c => c.toNat - '0'.toNat

/-- A sign that may be left out, and whether it is the negative one. -/
inductive SpellsSign : List Char → Bool → Prop
  | absent : SpellsSign [] false
  | plus : SpellsSign ['+'] false
  | minus : SpellsSign ['-'] true

theorem isDigits_takeWhile (text : List Char) : IsDigits (text.takeWhile Char.isDigit) :=
  fun _ member => List.mem_takeWhile_imp member

theorem ne_of_isDigit {c other : Char} (digit : c.isDigit = true) (different : other.isDigit = false) :
    c ≠ other := by
  rintro rfl
  rw [digit] at different
  cases different

end Digits

namespace Numeral

/-- The whole number that is denoted by digits behind others. -/
def valueFrom (start : Nat) (digits : List Char) : Nat :=
  (digitValues digits).foldl (fun value digit => value * 10 + digit) start

/-- A whole number: a sign that may be left out and at least one digit. -/
inductive Spells : List Char → Int → Prop
  | intro {sign digits : List Char} {negative : Bool} (signed : SpellsSign sign negative) (only : IsDigits digits)
      (nonempty : digits ≠ []) :
      Spells (sign ++ digits) (if negative then -(valueFrom 0 digits : Int) else valueFrom 0 digits)

theorem le_valueFrom (start : Nat) (digits : List Char) : start ≤ valueFrom start digits := by
  induction digits generalizing start with
  | nil => exact Nat.le_refl _
  | cons c rest ih =>
    have further := ih (start * 10 + (c.toNat - '0'.toNat))
    change start ≤ valueFrom (start * 10 + (c.toNat - '0'.toNat)) rest
    omega

/-- Digits behind others are read exactly if they keep the value within the limit. -/
theorem readDigits_eq_ok_iff {limit start value : Nat} {text : List Char} (within : start ≤ limit) :
    readDigits limit start text = .ok value ↔ IsDigits text ∧ valueFrom start text = value ∧ value ≤ limit := by
  induction text generalizing start with
  | nil =>
    rw [readDigits, Except.ok.injEq]
    exact ⟨fun same => ⟨nofun, same, same ▸ within⟩, fun parts => parts.2.1⟩
  | cons c rest ih =>
    rw [IsDigits, List.forall_mem_cons, readDigits, digit?]
    by_cases digit : c.isDigit = true
    · simp only [digit, if_true, true_and]
      split
      · next fits => exact ih fits
      · next exceeds =>
        have grows := le_valueFrom (start * 10 + (c.toNat - '0'.toNat)) rest
        refine iff_of_false nofun fun ⟨_, same, bounded⟩ => ?_
        change valueFrom (start * 10 + (c.toNat - '0'.toNat)) rest = value at same
        omega
    · simp [digit]

/-- A number without a sign is read by its digits. -/
theorem signed?_of_digit {c : Char} (digit : c.isDigit = true) (limit : Nat) (rest : List Char) :
    signed? limit (c :: rest) = (readDigits limit 0 (c :: rest)).toOption.map fun value => (value : Int) := by
  have unsigned_eq : unsigned limit (c :: rest) = readDigits limit 0 (c :: rest) := by
    unfold unsigned
    split
    · next same => cases same
    · next same => exact absurd (List.cons.inj same).1 (ne_of_isDigit digit rfl)
    · rfl
  rw [← unsigned_eq]
  unfold signed?
  split
  · next same => exact absurd (List.cons.inj same).1 (ne_of_isDigit digit rfl)
  · rfl

theorem map_readDigits_eq_some_iff {limit : Nat} {text : List Char} {f : Int → Int} {value : Int} :
    ((readDigits limit 0 text).toOption.bind fun number => some (number : Int)).map f = some value ↔
      IsDigits text ∧ valueFrom 0 text ≤ limit ∧ f (valueFrom 0 text) = value := by
  have read (number : Nat) : readDigits limit 0 text = .ok number ↔
      IsDigits text ∧ valueFrom 0 text = number ∧ number ≤ limit := readDigits_eq_ok_iff (Nat.zero_le limit)
  cases result : readDigits limit 0 text with
  | ok number =>
    obtain ⟨only, rfl, bounded⟩ := (read number).mp result
    exact ⟨fun same => ⟨only, bounded, Option.some.inj same⟩, fun parts => congrArg some parts.2.2⟩
  | error problem =>
    refine iff_of_false nofun fun ⟨only, bounded, _⟩ => ?_
    rw [(read _).mpr ⟨only, rfl, bounded⟩] at result
    cases result

/-- What is read are the whole numbers from `-limit - 1` to `limit`. -/
theorem signed?_eq_some_iff {limit : Nat} {text : List Char} {value : Int} :
    signed? limit text = some value ↔ Spells text value ∧ -(limit : Int) - 1 ≤ value ∧ value ≤ limit := by
  constructor
  · intro read
    unfold signed? unsigned at read
    split at read
    · obtain ⟨only, bounded, rfl⟩ := map_readDigits_eq_some_iff.mp read
      exact ⟨.intro .minus only (List.cons_ne_nil _ _), by omega, by omega⟩
    split at read
    · cases read
    · obtain ⟨only, bounded, rfl⟩ := map_readDigits_eq_some_iff.mp read
      exact ⟨.intro .plus only (List.cons_ne_nil _ _), by omega, by omega⟩
    · next nonempty _ =>
      obtain ⟨only, bounded, rfl⟩ := map_readDigits_eq_some_iff.mp read
      exact ⟨.intro .absent only nonempty, by omega, by omega⟩
  · rintro ⟨⟨signed, only, nonempty⟩, least, greatest⟩
    obtain ⟨c, rest, rfl⟩ := List.exists_cons_of_ne_nil nonempty
    cases signed with
    | absent =>
      rw [List.nil_append, signed?_of_digit (only c List.mem_cons_self)]
      exact map_readDigits_eq_some_iff.mpr ⟨only, by simpa using greatest, rfl⟩
    | plus => exact map_readDigits_eq_some_iff.mpr ⟨only, by simpa using greatest, rfl⟩
    | minus =>
      refine map_readDigits_eq_some_iff.mpr ⟨only, ?_, rfl⟩
      simp only [if_true] at least
      omega

end Numeral

end Text

open Text

namespace Decimal

/-- A number without its sign: its digits, and how many of them follow the point. -/
inductive SpellsMagnitude : List Char → List Nat → Nat → Prop
  | whole {digits : List Char} (only : IsDigits digits) (nonempty : digits ≠ []) :
      SpellsMagnitude digits (digitValues digits) 0
  | pointed {whole fraction : List Char} (before : IsDigits whole) (after : IsDigits fraction)
      (nonempty : whole ++ fraction ≠ []) :
      SpellsMagnitude (whole ++ '.' :: fraction) (digitValues (whole ++ fraction)) fraction.length

/-- A number: a sign that may be left out, and at least one digit, with at most one point among the digits. -/
inductive Spells : List Char → Decimal → Prop
  | intro {sign magnitude : List Char} {negative : Bool} {digits : List Nat} {places : Nat}
      (signed : SpellsSign sign negative) (spelled : SpellsMagnitude magnitude digits places) :
      Spells (sign ++ magnitude) ⟨negative, digits, places⟩

theorem digitsOf_append {digits rest : List Char} (only : IsDigits digits)
    (stop : ∀ c ∈ rest.head?, c.isDigit = false) : digitsOf (digits ++ rest) = digitValues digits := by
  rw [digitsOf, takeWhile_append_of_stop only stop, digitValues]

theorem digitsOf_of_isDigits {digits : List Char} (only : IsDigits digits) :
    digitsOf digits = digitValues digits := by
  have ends : ∀ c ∈ ([] : List Char).head?, c.isDigit = false := nofun
  rw [← digitsOf_append only ends, List.append_nil]

theorem isEmpty_digitValues (digits : List Char) : (digitValues digits).isEmpty = digits.isEmpty :=
  List.isEmpty_map

section Magnitude

variable {negative : Bool} {whole rest : List Char} {number : Decimal}

theorem readMagnitude?_whole (only : IsDigits whole) :
    readMagnitude? negative whole = some number ↔ whole ≠ [] ∧ number = ⟨negative, digitValues whole, 0⟩ := by
  have ends : whole.dropWhile Char.isDigit = [] := List.dropWhile_eq_nil_iff.mpr only
  simp only [readMagnitude?, ends, digitsOf_of_isDigits only, isEmpty_digitValues, List.isEmpty_iff,
    Option.ite_none_left_eq_some, Option.some.injEq]
  exact and_congr_right fun _ => eq_comm

theorem readMagnitude?_pointed (only : IsDigits whole) :
    readMagnitude? negative (whole ++ '.' :: rest) = some number ↔
      IsDigits rest ∧ whole ++ rest ≠ [] ∧ number = ⟨negative, digitValues (whole ++ rest), rest.length⟩ := by
  have stop : ∀ c ∈ ('.' :: rest).head?, c.isDigit = false := fun c first => Option.some.inj first ▸ rfl
  simp only [readMagnitude?, dropWhile_append_of_stop only stop, digitsOf_append only stop]
  by_cases digits : IsDigits rest
  · have ends : (rest.dropWhile Char.isDigit).isEmpty = true :=
      List.isEmpty_iff.mpr (List.dropWhile_eq_nil_iff.mpr digits)
    have joined : digitValues whole ++ digitsOf rest = digitValues (whole ++ rest) := by
      rw [digitsOf_of_isDigits digits, digitValues, digitValues, digitValues, List.map_append]
    have places : (digitsOf rest).length = rest.length := by
      rw [digitsOf_of_isDigits digits, digitValues, List.length_map]
    rw [ends, joined, places, isEmpty_digitValues]
    simp only [Bool.true_and, Bool.not_eq_true', List.isEmpty_eq_false_iff, Option.ite_none_right_eq_some,
      Option.some.injEq]
    exact ⟨fun ⟨nonempty, same⟩ => ⟨digits, nonempty, same.symm⟩, fun ⟨_, nonempty, same⟩ => ⟨nonempty, same.symm⟩⟩
  · have goes_on : (rest.dropWhile Char.isDigit).isEmpty = false := by
      rw [← Bool.not_eq_true, List.isEmpty_iff, List.dropWhile_eq_nil_iff]
      exact digits
    simp [goes_on, digits]

theorem readMagnitude?_stray {c : Char} (only : IsDigits whole) (stray : c.isDigit = false) (different : c ≠ '.') :
    readMagnitude? negative (whole ++ c :: rest) = none := by
  have stop : ∀ first ∈ (c :: rest).head?, first.isDigit = false := fun first same => Option.some.inj same ▸ stray
  simp only [readMagnitude?, dropWhile_append_of_stop only stop]
  split
  · next same => cases same
  · next same => exact absurd (List.cons.inj same).1 different
  · rfl

theorem readMagnitude?_eq_some_iff {text : List Char} :
    readMagnitude? negative text = some number ↔
      ∃ digits places, SpellsMagnitude text digits places ∧ number = ⟨negative, digits, places⟩ := by
  constructor
  · intro read
    have only := isDigits_takeWhile text
    have stop := stop_dropWhile Char.isDigit text
    rw [← List.takeWhile_append_dropWhile (p := Char.isDigit) (l := text)] at read ⊢
    generalize text.takeWhile Char.isDigit = whole at *
    generalize text.dropWhile Char.isDigit = ending at *
    cases ending with
    | nil =>
      rw [List.append_nil] at read ⊢
      obtain ⟨nonempty, rfl⟩ := (readMagnitude?_whole only).mp read
      exact ⟨_, _, .whole only nonempty, rfl⟩
    | cons c rest =>
      by_cases point : c = '.'
      · subst point
        obtain ⟨digits, nonempty, rfl⟩ := (readMagnitude?_pointed only).mp read
        exact ⟨_, _, .pointed only digits nonempty, rfl⟩
      · rw [readMagnitude?_stray only (stop c rfl) point] at read
        cases read
  · rintro ⟨digits, places, spelled, rfl⟩
    cases spelled with
    | whole only nonempty => exact (readMagnitude?_whole only).mpr ⟨nonempty, rfl⟩
    | pointed before after nonempty => exact (readMagnitude?_pointed before).mpr ⟨after, nonempty, rfl⟩

end Magnitude

/-- A number without its sign does not begin with a sign. -/
theorem SpellsMagnitude.first {text : List Char} {digits : List Nat} {places : Nat}
    (spelled : SpellsMagnitude text digits places) :
    ∃ c rest, text = c :: rest ∧ (c.isDigit = true ∨ c = '.') := by
  cases spelled with
  | whole only nonempty =>
    obtain ⟨c, rest, rfl⟩ := List.exists_cons_of_ne_nil nonempty
    exact ⟨c, rest, rfl, .inl (only c List.mem_cons_self)⟩
  | @pointed whole fraction before after nonempty =>
    cases whole with
    | nil => exact ⟨'.', fraction, rfl, .inr rfl⟩
    | cons c rest => exact ⟨c, _, rfl, .inl (before c List.mem_cons_self)⟩

theorem read?_eq_some_iff {text : List Char} {number : Decimal} : read? text = some number ↔ Spells text number := by
  constructor
  · intro read
    unfold read? at read
    split at read
    · obtain ⟨digits, places, spelled, rfl⟩ := readMagnitude?_eq_some_iff.mp read
      exact .intro .plus spelled
    · obtain ⟨digits, places, spelled, rfl⟩ := readMagnitude?_eq_some_iff.mp read
      exact .intro .minus spelled
    · obtain ⟨digits, places, spelled, rfl⟩ := readMagnitude?_eq_some_iff.mp read
      exact .intro .absent spelled
  · rintro ⟨signed, spelled⟩
    have read (negative : Bool) : readMagnitude? negative _ = some ⟨negative, _, _⟩ :=
      readMagnitude?_eq_some_iff.mpr ⟨_, _, spelled, rfl⟩
    cases signed with
    | plus => exact read false
    | minus => exact read true
    | absent =>
      obtain ⟨c, rest, rfl, first⟩ := spelled.first
      have unsigned (sign : Char) (differs : sign.isDigit = false) (other : sign ≠ '.') : c ≠ sign := by
        rintro rfl
        rcases first with digit | point
        · rw [digit] at differs
          cases differs
        · exact other point
      rw [List.nil_append]
      unfold read?
      split
      · next same => exact absurd (List.cons.inj same).1 (unsigned '+' rfl (by decide))
      · next same => exact absurd (List.cons.inj same).1 (unsigned '-' rfl (by decide))
      · exact read false

end Decimal

namespace Suffix

/-- The suffixes that are not exponents, with what they stand for. -/
def letters : List (List Char × Suffix) := [
  ([], .decimal 0), (['n'], .decimal (-9)), (['u'], .decimal (-6)), (['m'], .decimal (-3)), (['k'], .decimal 3),
  (['M'], .decimal 6), (['G'], .decimal 9), (['T'], .decimal 12), (['P'], .decimal 15), (['E'], .decimal 18),
  (['K', 'i'], .binary 10), (['M', 'i'], .binary 20), (['G', 'i'], .binary 30), (['T', 'i'], .binary 40),
  (['P', 'i'], .binary 50), (['E', 'i'], .binary 60)]

/-- A suffix: letters, or the mark of an exponent with a whole number that has at most 32 bits. -/
inductive Spells : List Char → Suffix → Prop
  | letters {text : List Char} {suffix : Suffix} (listed : (text, suffix) ∈ letters) : Spells text suffix
  | exponent {mark : Char} {text : List Char} {exponent : Int} (marked : mark = 'e' ∨ mark = 'E')
      (spelled : Numeral.Spells text exponent) (least : Int32.minValue.toInt ≤ exponent)
      (greatest : exponent ≤ Int32.maxValue.toInt) : Spells (mark :: text) (.scientific exponent)

/-- A whole number begins with a sign or a digit. -/
theorem first_of_spells {text : List Char} {value : Int} (spelled : Numeral.Spells text value) :
    ∃ c rest, text = c :: rest ∧ (c.isDigit = true ∨ c = '+' ∨ c = '-') := by
  obtain ⟨signed, only, nonempty⟩ := spelled
  obtain ⟨digit, more, rfl⟩ := List.exists_cons_of_ne_nil nonempty
  cases signed with
  | absent => exact ⟨digit, more, rfl, .inl (only digit List.mem_cons_self)⟩
  | plus => exact ⟨'+', digit :: more, rfl, .inr (.inl rfl)⟩
  | minus => exact ⟨'-', digit :: more, rfl, .inr (.inr rfl)⟩

theorem read?_letters : ∀ entry ∈ letters, read? entry.1 = some entry.2 := by decide

/-- The mark of an exponent in front of anything but `i`. -/
theorem read?_marked {mark c : Char} {rest : List Char} (marked : mark = 'e' ∨ mark = 'E') (other : c ≠ 'i') :
    read? (mark :: c :: rest) = (Numeral.signed? exponentLimit (c :: rest)).map .scientific := by
  rcases marked with rfl | rfl
  · rfl
  · simp [read?, other]

theorem read?_eq_some_iff {text : List Char} {suffix : Suffix} : read? text = some suffix ↔ Spells text suffix := by
  constructor
  · intro read
    unfold read? at read
    split at read
    case h_17 =>
      obtain ⟨marked, read⟩ := Option.ite_none_right_eq_some.mp read
      obtain ⟨exponent, value, rfl⟩ := Option.map_eq_some_iff.mp read
      obtain ⟨spelled, least, greatest⟩ := Numeral.signed?_eq_some_iff.mp value
      exact .exponent (by simpa using marked) spelled least greatest
    all_goals
      cases read
      exact .letters (by decide)
  · intro spelled
    cases spelled with
    | letters listed => exact read?_letters _ listed
    | exponent marked spelled least greatest =>
      obtain ⟨c, rest, rfl, first⟩ := first_of_spells spelled
      have other : c ≠ 'i' := by
        rintro rfl
        revert first
        decide
      have read : Numeral.signed? exponentLimit (c :: rest) = some _ :=
        Numeral.signed?_eq_some_iff.mpr ⟨spelled, least, greatest⟩
      rw [read?_marked marked other, read, Option.map_some]

end Suffix

namespace Quantity

/-- A quantity: a number and a suffix, one right behind the other, and blanks around them. -/
def Spells (text : String) (quantity : Quantity) : Prop :=
  ∃ before number suffix after, text.toList = before ++ (number ++ suffix) ++ after ∧
    IsBlanks before ∧ IsBlanks after ∧ Decimal.Spells number quantity.number ∧ Suffix.Spells suffix quantity.suffix

theorem isBlank_of_visible {c : Char} (least : 0x21 ≤ c.toNat) (greatest : c.toNat < 0x7F) : isBlank c = false := by
  simp only [isBlank, Bool.or_eq_false_iff, Bool.and_eq_false_iff, decide_eq_false_iff_not, beq_eq_false_iff_ne]
  omega

theorem isBlank_of_isDigit {c : Char} (digit : c.isDigit = true) : isBlank c = false := by
  have code : 48 ≤ c.toNat ∧ c.toNat ≤ 57 := by simpa [Char.isDigit, UInt32.le_iff_toNat_le] using digit
  exact isBlank_of_visible (by omega) (by omega)

theorem isBlank_of_isNumberChar {c : Char} (belongs : isNumberChar c = true) : isBlank c = false := by
  simp only [isNumberChar, Bool.or_eq_true, decide_eq_true_eq] at belongs
  rcases belongs with ((digit | rfl) | rfl) | rfl
  · exact isBlank_of_isDigit digit
  · rfl
  · rfl
  · rfl

theorem isNumberChar_of_isDigit {c : Char} (digit : c.isDigit = true) : isNumberChar c = true := by
  simp [isNumberChar, digit]

/-- A number is made of characters of numbers, of at least one. -/
theorem number_of_spells {text : List Char} {number : Decimal} (spelled : Decimal.Spells text number) :
    text ≠ [] ∧ ∀ c ∈ text, isNumberChar c = true := by
  obtain ⟨signed, spelled⟩ := spelled
  obtain ⟨first, rest, begins, -⟩ := spelled.first
  refine ⟨by simp [begins], fun c member => ?_⟩
  rcases List.mem_append.mp member with sign | within
  · cases signed with
    | absent => cases sign
    | plus | minus => exact List.mem_singleton.mp sign ▸ rfl
  cases spelled with
  | whole only => exact isNumberChar_of_isDigit (only c within)
  | pointed before after =>
    rcases List.mem_append.mp within with early | late
    · exact isNumberChar_of_isDigit (before c early)
    · rcases List.mem_cons.mp late with rfl | late
      · rfl
      · exact isNumberChar_of_isDigit (after c late)

/-- A suffix does not begin with a character of a number, and there is no blank in it. -/
theorem suffix_of_spells {text : List Char} {suffix : Suffix} (spelled : Suffix.Spells text suffix) :
    (∀ c ∈ text.head?, isNumberChar c = false) ∧ ∀ c ∈ text, isBlank c = false := by
  cases spelled with
  | letters listed =>
    have each : ∀ entry ∈ Suffix.letters, entry.1.head?.all (fun c => !isNumberChar c) = true ∧
        entry.1.all (fun c => !isBlank c) = true := by decide
    simpa [Option.all_eq_true, Option.mem_def] using each _ listed
  | exponent marked spelled least greatest =>
    refine ⟨fun c first => ?_, fun c member => ?_⟩
    · rcases marked with rfl | rfl <;> exact Option.some.inj first ▸ rfl
    · obtain ⟨signed, only, nonempty⟩ := spelled
      rcases List.mem_cons.mp member with rfl | member
      · rcases marked with rfl | rfl <;> rfl
      · rcases List.mem_append.mp member with sign | digit
        · cases signed with
          | absent => cases sign
          | plus | minus => exact List.mem_singleton.mp sign ▸ rfl
        · exact isBlank_of_isDigit (only c digit)

/-- Reading accepts exactly the texts that spell a quantity, and gives the one that they spell. -/
theorem read?_eq_some_iff {text : String} {quantity : Quantity} :
    read? text = some quantity ↔ Spells text quantity := by
  constructor
  · intro read
    obtain ⟨number, numberRead, rest⟩ := Option.bind_eq_some_iff.mp read
    obtain ⟨suffix, suffixRead, result⟩ := Option.bind_eq_some_iff.mp rest
    obtain ⟨before, after, split, front, back⟩ := exists_trim text.toList
    cases result
    refine ⟨before, _, _, after, ?_, front, back, Decimal.read?_eq_some_iff.mp numberRead,
      Suffix.read?_eq_some_iff.mp suffixRead⟩
    rwa [List.takeWhile_append_dropWhile]
  · rintro ⟨before, number, suffix, after, split, front, back, spellsNumber, spellsSuffix⟩
    obtain ⟨nonempty, inside⟩ := number_of_spells spellsNumber
    obtain ⟨stop, visible⟩ := suffix_of_spells spellsSuffix
    have unblank : ∀ c ∈ number ++ suffix, isBlank c = false := fun c member =>
      (List.mem_append.mp member).elim (fun within => isBlank_of_isNumberChar (inside c within)) (visible c)
    have trimmed : trim text.toList = number ++ suffix := by
      rw [split]
      exact trim_eq front back (fun c first => unblank c (List.mem_of_mem_head? first))
        (fun c last => unblank c (List.mem_of_mem_getLast? last)) (by simp [nonempty])
    simp only [read?, trimmed, takeWhile_append_of_stop inside stop, dropWhile_append_of_stop inside stop,
      Decimal.read?_eq_some_iff.mpr spellsNumber, Suffix.read?_eq_some_iff.mpr spellsSuffix]
    rfl

/-- A text has a value exactly if it spells a quantity, and then that of the quantity. Two texts are compared by their
values if both have one, and as they are if one of them has none. -/
theorem valued_iff_spelled (a b : String) :
    (∀ value, value? a = some value ↔ ∃ quantity, Spells a quantity ∧ quantity.value = value) ∧
      (value? a = none ↔ ∀ quantity, ¬ Spells a quantity) ∧
      (∀ x y, Spells a x → Spells b y → same a b = close x.value y.value) ∧
      ((∀ x, ¬ Spells a x) ∨ (∀ y, ¬ Spells b y) → same a b = decide (a = b)) := by
  have valued (text : String) (value : Binary64) :
      value? text = some value ↔ ∃ quantity, Spells text quantity ∧ quantity.value = value := by
    simp only [value?, Option.map_eq_some_iff, read?_eq_some_iff]
  have unvalued (text : String) : value? text = none ↔ ∀ quantity, ¬ Spells text quantity := by
    rw [value?, Option.map_eq_none_iff, Option.eq_none_iff_forall_ne_some]
    exact forall_congr' fun quantity => not_congr read?_eq_some_iff
  refine ⟨valued a, unvalued a, fun x y spellsA spellsB => ?_, fun unspelled => ?_⟩
  · simp only [same, (valued a _).mpr ⟨x, spellsA, rfl⟩, (valued b _).mpr ⟨y, spellsB, rfl⟩]
  · rcases unspelled with first | second
    · simp only [same, (unvalued a).mpr first]
      rfl
    · simp only [same, (unvalued b).mpr second]
      cases value? a <;> rfl

/-- A thousand times a thousandth is one, and blanks do not count; but where a text has no value, they do. -/
theorem valued_iff_spelled_of_blanks :
    value? "\u00a01000m " = some (value ⟨⟨false, [1, 0, 0, 0], 0⟩, .decimal (-3)⟩) ∧
      same "\u00a01000m " "+1.e0" = true ∧ value? "1Qi" = none ∧ same " 1Qi" "1Qi" = false := by
  have thousand : Spells "\u00a01000m " ⟨⟨false, [1, 0, 0, 0], 0⟩, .decimal (-3)⟩ :=
    read?_eq_some_iff.mp (by decide)
  have one : Spells "+1.e0" ⟨⟨false, [1], 0⟩, .scientific 0⟩ := read?_eq_some_iff.mp (by decide)
  have none : ∀ quantity, ¬ Spells "1Qi" quantity := by
    have unread : read? "1Qi" = Option.none := by decide
    intro quantity spelled
    rw [← read?_eq_some_iff, unread] at spelled
    cases spelled
  obtain ⟨valued, -, compared, -⟩ := valued_iff_spelled "\u00a01000m " "+1.e0"
  obtain ⟨-, unvalued, -, -⟩ := valued_iff_spelled "1Qi" "1Qi"
  obtain ⟨-, -, -, raw⟩ := valued_iff_spelled " 1Qi" "1Qi"
  refine ⟨(valued _).mpr ⟨_, thousand, rfl⟩, ?_, unvalued.mpr none, ?_⟩
  · rw [compared _ _ thousand one]
    decide +kernel
  · rw [raw (.inr none)]
    decide

end Quantity

end Reconciliation
