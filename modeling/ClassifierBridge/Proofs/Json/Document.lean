import ClassifierBridge.Json.Document
import ClassifierBridge.Proofs.Decimal.Layout
import ClassifierBridge.Proofs.Json.Items
import ClassifierBridge.Proofs.Json.Scale

/-!
# `ClassifierBridge.Proofs.Json.Document`: what is written is JSON

Each writer writes a spelling of a tree. For numbers the tree has the literal
that the text spells, so what a reader makes of the text is a matter of that
literal alone.

* `spelling_writeInteger`: integers, with the literal `integerLiteral`.
* `spelling_writeSingle`: thresholds, with the literal `writtenLiteral`, which is
  never out of range (`exists_number_writtenLiteral`).
* `spelling_writeStrings`, `spelling_writeObject`: lists and objects.
-/

set_option autoImplicit false

namespace ClassifierBridge.Json

/-! ### Integers -/

/-- The literal that is written for an integer. -/
def integerLiteral (n : Int) : Literal := ⟨decide (n < 0), Nat.toDigits 10 n.natAbs, [], none⟩

/-- The digits of a number make the whole part of a literal: no zero leads them. -/
theorem wholeDigits_toDigits (n : Nat) : WholeDigits (Nat.toDigits 10 n) := by
  refine ⟨⟨Nat.toDigits_ne_nil, fun d hmem => Decimal.isDigit_of_mem_digitsOf hmem⟩,
    fun hzero => ?_⟩
  rcases Nat.eq_zero_or_pos n with rfl | hpos
  · exact Nat.toDigits_zero 10
  · exact absurd hzero (Decimal.head?_digitsOf_ne_zero hpos)

/-- An integer is written as the literal of its sign and its digits. -/
theorem spelling_writeInteger (n : Int) :
    Spelling (writeInteger n) (.number (integerLiteral n)) := by
  have hparts : ∀ negative, UnsignedSpelling negative (Nat.toDigits 10 n.natAbs)
      ⟨negative, Nat.toDigits 10 n.natAbs, [], none⟩ := by
    intro negative
    have hspelled : UnsignedSpelling negative _ _ :=
      .parts (wholeDigits_toDigits n.natAbs) .absent .absent
    rw [List.append_nil, List.append_nil] at hspelled
    exact hspelled
  unfold writeInteger integerText integerLiteral
  -- The sign is outside the digits, so both cases share their spelling.
  by_cases hnegative : n < 0
  · rw [if_pos hnegative, decide_eq_true hnegative]
    exact .number (.signed (hparts true))
  · rw [if_neg hnegative, decide_eq_false hnegative]
    exact .number (.unsigned (hparts false))

/-- The literal that is written for an integer spells this integer. -/
theorem spells_integerLiteral (n : Int) : (integerLiteral n).Spells n := by
  have hvalue : (integerLiteral n).wholeValue = n.natAbs := Nat.ofDigitChars_ten_toDigits
  refine ⟨rfl, rfl, fun hzero => ?_, ?_⟩
  · rw [hvalue] at hzero
    have hnegative : n < 0 := of_decide_eq_true hzero.1
    omega
  · rw [hvalue]
    by_cases hnegative : n < 0
    · rw [show (integerLiteral n).negative = true from decide_eq_true hnegative, if_pos rfl]
      omega
    · rw [show (integerLiteral n).negative = false from decide_eq_false hnegative,
        if_neg Bool.false_ne_true]
      omega

/-! ### Numbers -/

/-- The literal of a number in positional notation. -/
def positionalLiteral (negative : Bool) (digits : List Char) (leading : Int) : Literal :=
  if leading < 0 then
    ⟨negative, ['0'], List.replicate (-leading - 1).toNat '0' ++ digits, none⟩
  else
    let whole := leading.toNat + 1
    let fraction := digits.drop whole
    ⟨negative, digits.take whole ++ List.replicate (whole - digits.length) '0',
      if fraction.isEmpty then ['0'] else fraction, none⟩

/-- The literal of a number in scientific notation. -/
def scientificLiteral (negative : Bool) (digits : List Char) (leading : Int) : Literal :=
  ⟨negative, digits.take 1, digits.drop 1,
    some (decide (leading < 0), Decimal.digitsOf leading.natAbs)⟩

/-- A zero is a digit. -/
theorem digits_zero : Digits ['0'] :=
  ⟨List.cons_ne_nil _ _, forall_mem_of_all (by decide)⟩

/-- A zero that stands alone is a whole part. -/
theorem wholeDigits_zero : WholeDigits ['0'] := ⟨digits_zero, fun _ => rfl⟩

/-- In positional notation every place up to the point is filled, with zeros where
the digits end before it. -/
theorem unsignedSpelling_positional (negative : Bool) {digits : List Char} (hall : Digits digits)
    (hhead : digits.head? ≠ some '0') (leading : Int) :
    UnsignedSpelling negative (NumberLayout.positional digits leading)
      (positionalLiteral negative digits leading) := by
  unfold NumberLayout.positional positionalLiteral
  -- The zeros that fill the places up are digits like the others.
  have hzeros : ∀ n, ∀ d ∈ List.replicate n '0', d.isDigit = true := by
    intro n d hmem
    rw [List.eq_of_mem_replicate hmem]
    rfl
  split
  · have hfraction : Digits (List.replicate (-leading - 1).toNat '0' ++ digits) := by
      refine ⟨List.append_ne_nil_of_right_ne_nil _ hall.1, fun d hmem => ?_⟩
      rcases List.mem_append.mp hmem with hzero | hdigit
      · exact hzeros _ d hzero
      · exact hall.2 d hdigit
    have hspelled : UnsignedSpelling negative _ _ :=
      .parts wholeDigits_zero (.present hfraction) .absent
    rw [List.append_nil] at hspelled
    exact hspelled
  · dsimp only
    generalize leading.toNat = n
    obtain ⟨d, ds, rfl⟩ := List.exists_cons_of_ne_nil hall.1
    -- The first digit leads, and it is no zero.
    have hwhole : WholeDigits ((d :: ds).take (n + 1)
        ++ List.replicate (n + 1 - (d :: ds).length) '0') := by
      rw [List.take_succ_cons]
      refine ⟨⟨List.cons_ne_nil _ _, fun c hmem => ?_⟩, fun hzero => absurd hzero hhead⟩
      rcases List.mem_append.mp hmem with hdigit | hzero
      · rw [← List.take_succ_cons] at hdigit
        exact hall.2 c (List.mem_of_mem_take hdigit)
      · exact hzeros _ c hzero
    have hfraction : Digits (if ((d :: ds).drop (n + 1)).isEmpty then ['0']
        else (d :: ds).drop (n + 1)) := by
      split
      · exact digits_zero
      · next hsome =>
          exact ⟨fun hnone => hsome (List.isEmpty_iff.mpr hnone),
            fun c hmem => hall.2 c (List.mem_of_mem_drop hmem)⟩
    have hspelled : UnsignedSpelling negative _ _ := .parts hwhole (.present hfraction) .absent
    rw [List.append_nil] at hspelled
    exact hspelled

/-- In scientific notation one digit stands before the point, and there is no point
where it is the only one. -/
theorem unsignedSpelling_scientific (negative : Bool) {digits : List Char} (hall : Digits digits)
    (hhead : digits.head? ≠ some '0') (leading : Int) :
    UnsignedSpelling negative (NumberLayout.scientific ['+'] digits leading)
      (scientificLiteral negative digits leading) := by
  unfold NumberLayout.scientific scientificLiteral
  obtain ⟨d, ds, rfl⟩ := List.exists_cons_of_ne_nil hall.1
  have hwhole : WholeDigits ((d :: ds).take 1) :=
    ⟨⟨List.cons_ne_nil _ _, fun c hmem => hall.2 c (List.mem_of_mem_take hmem)⟩,
      fun hzero => absurd hzero hhead⟩
  have hfraction : FractionSpelling (if ((d :: ds).drop 1).isEmpty then []
      else '.' :: (d :: ds).drop 1) ((d :: ds).drop 1) := by
    split
    · next hnone =>
        rw [List.isEmpty_iff.mp hnone]
        exact .absent
    · next hsome =>
        exact .present ⟨fun hnone => hsome (List.isEmpty_iff.mpr hnone),
          fun c hmem => hall.2 c (List.mem_of_mem_drop hmem)⟩
  -- An exponent is written with its sign, also where it is positive.
  have hexponent : ExponentSpelling
      ('e' :: ((if leading < 0 then ['-'] else ['+']) ++ Decimal.digitsOf leading.natAbs))
      (some (decide (leading < 0), Decimal.digitsOf leading.natAbs)) := by
    have hexponentDigits := (wholeDigits_toDigits leading.natAbs).1
    by_cases hdown : leading < 0
    · rw [if_pos hdown, decide_eq_true hdown]
      exact .present (.inl rfl) .minus hexponentDigits
    · rw [if_neg hdown, decide_eq_false hdown]
      exact .present (.inl rfl) .plus hexponentDigits
  have hspelled : UnsignedSpelling negative _ _ := .parts hwhole hfraction hexponent
  rw [← List.append_assoc] at hspelled
  exact hspelled

/-- The literal of a decimal in documents. -/
def decimalLiteral (negative : Bool) (d : Decimal) : Literal :=
  if d.digits = 0 then ⟨negative, ['0'], ['0'], none⟩
  else
    let leading := NumberLayout.leadingExponent d
    if NumberLayout.json.leastPositional ≤ leading ∧ leading ≤ NumberLayout.json.mostPositional then
      positionalLiteral negative (NumberLayout.significantDigits d) leading
    else scientificLiteral negative (NumberLayout.significantDigits d) leading

/-- The literal that is written for a finite number. -/
def writtenLiteral (x : Single) : Literal :=
  decimalLiteral x.negative (Decimal.shortest .single NumberLayout.json.tie x.magnitude)

/-- Whichever notation is chosen for a decimal, its text spells its literal. -/
theorem unsignedSpelling_writeDecimal (negative : Bool) (d : Decimal) :
    UnsignedSpelling negative (NumberLayout.json.writeDecimal d) (decimalLiteral negative d) := by
  unfold NumberLayout.writeDecimal decimalLiteral
  split
  · exact .parts wholeDigits_zero (.present digits_zero) .absent
  · next hnonzero =>
      obtain ⟨hall, hhead⟩ := NumberLayout.digits_significantDigits (Nat.pos_of_ne_zero hnonzero)
      dsimp only
      split
      · exact unsignedSpelling_positional negative hall hhead _
      · exact unsignedSpelling_scientific negative hall hhead _

/-- A finite number is written as its literal, with the sign before it. -/
theorem spelling_writeSingle {x : Single} (hfinite : x.isFinite = true) :
    Spelling (writeSingle x) (.number (writtenLiteral x)) := by
  unfold writeSingle NumberLayout.writeFinite writtenLiteral
  rw [if_pos hfinite]
  have hspelled := unsignedSpelling_writeDecimal x.negative
    (Decimal.shortest .single NumberLayout.json.tie x.magnitude)
  cases hsign : x.negative with
  | true =>
      rw [hsign] at hspelled
      exact .number (.signed hspelled)
  | false =>
      rw [hsign] at hspelled
      exact .number (.unsigned hspelled)

/-- A literal that has a spelling has a well-formed whole part. -/
theorem wholeDigits_of_unsignedSpelling {negative : Bool} {p : List Char} {l : Literal}
    (hspelled : UnsignedSpelling negative p l) : WholeDigits l.whole := by
  cases hspelled with
  | parts hwholeDigits => exact hwholeDigits

/-- The whole part of a written number is short: no layout has more than
thirteen digits before the point. -/
theorem length_whole_decimalLiteral_le (negative : Bool) (d : Decimal) :
    (decimalLiteral negative d).whole.length ≤ 13 := by
  unfold decimalLiteral
  split
  · exact Nat.le_of_ble_eq_true rfl
  · dsimp only
    split
    · next hrange =>
        -- Behind the thirteenth place the layout changes to scientific notation.
        have hmost : NumberLayout.leadingExponent d ≤ 12 := hrange.2
        unfold positionalLiteral
        split
        · exact Nat.le_of_ble_eq_true rfl
        · dsimp only
          rw [List.length_append, List.length_take, List.length_replicate]
          omega
    · exact Nat.le_trans (List.length_take_le 1 _) (by decide)

/-- A written number reads as a number: it is never out of range. -/
theorem exists_number_writtenLiteral {x : Single} (hfinite : x.isFinite = true) :
    ∃ n, (writtenLiteral x).number = .ok n := by
  unfold writtenLiteral
  generalize hshortest : Decimal.shortest .single NumberLayout.json.tie x.magnitude = d
  have hdigits := (wholeDigits_of_unsignedSpelling (unsignedSpelling_writeDecimal x.negative d)).1.2
  have hshort := length_whole_decimalLiteral_le x.negative d
  refine Literal.exists_number
    (Literal.accumulate_of_length_le hdigits (Nat.le_trans hshort (by decide))) ?_
  intro down ds hwritten
  unfold decimalLiteral at hwritten
  split at hwritten
  · cases hwritten
  · next hnonzero =>
      dsimp only at hwritten
      split at hwritten
      · unfold positionalLiteral at hwritten
        split at hwritten
        · cases hwritten
        · cases hwritten
      · -- Only scientific notation has an exponent, and a finite number has a small one.
        cases hwritten
        have hpos : 0 < x.magnitude := by
          refine Nat.pos_of_ne_zero fun hzero => hnonzero ?_
          rw [← hshortest, hzero]
          rfl
        have hbounds := NumberLayout.leadingExponent_shortest_bounds NumberLayout.json.tie hpos
          (of_decide_eq_true hfinite) (by rw [hshortest]; exact Nat.pos_of_ne_zero hnonzero)
        rw [hshortest] at hbounds
        have hvalue : Nat.ofDigitChars 10
            (Decimal.digitsOf (NumberLayout.leadingExponent d).natAbs) 0
            = (NumberLayout.leadingExponent d).natAbs := Nat.ofDigitChars_ten_toDigits
        have hlimit : Literal.exponentLimit = 2147483647 := rfl
        rw [hvalue, hlimit]
        refine ⟨by omega, fun hup => ?_⟩
        have hnonneg := of_decide_eq_false hup
        omega

/-! ### Lists and objects -/

section Items

variable {α : Type} {Item : List Char → α → Prop}

/-- Written items, each with what it spells, are separated by commas. -/
theorem separated_of_items (items : List (List Char × α)) (hnonempty : items ≠ [])
    (hall : ∀ p ∈ items, Item p.1 p.2) :
    Separated Item (separated (items.map Prod.fst)) (items.map Prod.snd) := by
  -- By induction on the items: a comma stands before all but the first.
  induction items with
  | nil => exact absurd rfl hnonempty
  | cons p items ih =>
      have hitem := hall p List.mem_cons_self
      cases items with
      | nil =>
          have hspelled := Separated.one blanks_nil hitem blanks_nil
          rw [List.append_nil, List.nil_append] at hspelled
          rw [List.map_cons, List.map_cons, List.map_nil, List.map_nil, separated,
            List.intercalate_singleton]
          exact hspelled
      | cons q items =>
          have hrest := ih (List.cons_ne_nil _ _) fun p' hmem =>
            hall p' (List.mem_cons_of_mem p hmem)
          have hspelled := Separated.more blanks_nil hitem blanks_nil hrest
          rw [List.append_nil, List.nil_append] at hspelled
          rw [List.map_cons, List.map_cons, List.map_cons, separated, List.intercalate_cons_cons,
            List.append_assoc]
          exact hspelled

/-- Written items between two brackets; where there are none, nothing stands between
them. -/
theorem bracketed_of_items (opening closing : Char) (items : List (List Char × α))
    (hall : ∀ p ∈ items, Item p.1 p.2) :
    Bracketed opening closing Item (opening :: (separated (items.map Prod.fst) ++ [closing]))
      (items.map Prod.snd) := by
  cases items with
  | nil => exact .none blanks_nil
  | cons p items => exact .some (separated_of_items _ (List.cons_ne_nil _ _) hall)

end Items

/-- A string is written as a spelling of itself. -/
theorem spelling_writeString (text : String) : Spelling (writeString text) (.ofString text) :=
  StringBody.spelling_write text.toList

/-- A truth value is written as its word. -/
theorem spelling_writeBool (b : Bool) : Spelling (writeBool b) (.bool b) := by
  cases b with
  | true => exact .true
  | false => exact .false

/-- A list of strings is written as the list of their spellings. -/
theorem spelling_writeStrings (texts : List String) :
    Spelling (writeStrings texts) (.list (texts.map Tree.ofString)) := by
  have hbetween : Bracketed '[' ']' Spelling _ _ := bracketed_of_items '[' ']'
    (texts.map fun text => (writeString text, Tree.ofString text)) fun p hmem => by
      obtain ⟨text, -, rfl⟩ := List.mem_map.mp hmem
      exact spelling_writeString text
  rw [List.map_map, List.map_map] at hbetween
  exact .list hbetween

/-- A member is written as its name, the colon and its value, without blanks. -/
theorem member_writeMember (name : String) {value : List Char} {t : Tree}
    (hspelled : Spelling value t) : Member (writeMember name value) (name.toList, t) := by
  have hmember := Member.mk (StringBody.textSpelling_flatMap_writeChar name.toList)
    blanks_nil blanks_nil hspelled
  have htext : writeMember name value
      = '"' :: (name.toList.flatMap StringBody.writeChar
          ++ '"' :: ([] ++ ':' :: ([] ++ value))) := by
    simp only [writeMember, writeString, StringBody.write, List.cons_append, List.append_assoc,
      List.nil_append]
  rw [htext]
  exact hmember

/-- Members that are written in order spell the object that has them in this order. -/
theorem spelling_writeObject (items : List (List Char × (List Char × Tree)))
    (hall : ∀ p ∈ items, Member p.1 p.2) :
    Spelling (writeObject (items.map Prod.fst)) (.object (items.map Prod.snd)) :=
  .object (bracketed_of_items '\x7b' '\x7d' items hall)

/-- Members written one after another, each with its name, the text of its value
and the tree that the text spells. -/
theorem spelling_writeMembers (members : List (String × (List Char × Tree)))
    (hall : ∀ m ∈ members, Spelling m.2.1 m.2.2) :
    Spelling (writeObject (members.map fun m => writeMember m.1 m.2.1))
      (.object (members.map fun m => (m.1.toList, m.2.2))) := by
  have hspelled := spelling_writeObject
    (members.map fun m => (writeMember m.1 m.2.1, m.1.toList, m.2.2)) fun item hmem => by
      obtain ⟨m, hwritten, rfl⟩ := List.mem_map.mp hmem
      exact member_writeMember m.1 (hall m hwritten)
  rw [List.map_map, List.map_map] at hspelled
  exact hspelled

end ClassifierBridge.Json
