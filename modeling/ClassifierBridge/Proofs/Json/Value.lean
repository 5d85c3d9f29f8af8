import ClassifierBridge.Proofs.Json.Number
import ClassifierBridge.Proofs.Json.StringBody

/-!
# `ClassifierBridge.Proofs.Json.Value`: typed readers against the grammar

A typed reader is right if it reads exactly the spellings of the values of its
type, wherever they stand: `Reads` says so once for all of them. It takes two
facts for each reader, what it accepts is spelled that way, and what is spelled
that way is accepted whatever follows, as long as a number is not continued.

* `readHead_sound`, `readHead_complete`: scalars and opening brackets.
* `reads_string`, `reads_bool`, `reads_int32`, `reads_optionalSingle`: the
  readers of typed scalars.
-/

set_option autoImplicit false

namespace ClassifierBridge.Json

/-! ### Blanks -/

/-- The blanks that are skipped are those of the grammar. -/
theorem isBlank_iff {c : Char} : isBlank c = true ↔ c ∈ [' ', '\t', '\n', '\r'] := by
  simp only [isBlank, Bool.or_eq_true, beq_iff_eq, List.mem_cons, List.not_mem_nil, or_false,
    or_assoc]

/-- There may be no blanks at all. -/
theorem blanks_nil : Blanks [] := fun _ hmem => absurd hmem List.not_mem_nil

/-- A value is a whole text. -/
theorem Spelling.document {s : List Char} {t : Tree} (hspelled : Spelling s t) : Document s t := by
  have hdocument := Document.mk blanks_nil hspelled blanks_nil
  rw [List.nil_append, List.append_nil] at hdocument
  exact hdocument

/-- Leading blanks make no difference. -/
theorem skipBlank_append {b : List Char} (hblanks : Blanks b) (s : List Char) :
    skipBlank (b ++ s) = skipBlank s :=
  List.dropWhile_append_of_pos fun c hmem => isBlank_iff.mpr (hblanks c hmem)

/-- Nothing is left of blanks. -/
theorem skipBlank_blanks {b : List Char} (hblanks : Blanks b) : skipBlank b = [] := by
  have hall := skipBlank_append hblanks []
  rw [List.append_nil] at hall
  exact hall

/-- What is no blank is not skipped. -/
theorem skipBlank_cons {c : Char} (hvisible : c ∉ [' ', '\t', '\n', '\r']) (s : List Char) :
    skipBlank (c :: s) = c :: s :=
  List.dropWhile_cons_of_neg fun hblank => hvisible (isBlank_iff.mp hblank)

/-- A text is its leading blanks and what is left without them. -/
theorem exists_blanks (s : List Char) : ∃ b, Blanks b ∧ s = b ++ skipBlank s := by
  refine ⟨s.takeWhile isBlank, fun c hmem => ?_, List.takeWhile_append_dropWhile.symm⟩
  exact isBlank_iff.mp (List.all_eq_true.mp List.all_takeWhile c hmem)

/-- The first character that is no blank stands behind blanks. -/
theorem exists_blanks_of_skipBlank {s tail : List Char} {c : Char}
    (hstart : skipBlank s = c :: tail) : ∃ b, Blanks b ∧ s = b ++ c :: tail := by
  obtain ⟨b, hblanks, hsplit⟩ := exists_blanks s
  rw [hstart] at hsplit
  exact ⟨b, hblanks, hsplit⟩

/-! ### Scalars and opening brackets -/

/-- A word is read exactly where it comes next. -/
theorem readWord_eq_ok_iff {word s rest : List Char} :
    readWord word s = .ok rest ↔ s = word ++ rest := by
  -- By induction on the word, letter by letter.
  induction word generalizing s with
  | nil =>
      rw [readWord, List.nil_append]
      exact ⟨fun h => Except.ok.inj h, fun h => congrArg Except.ok h⟩
  | cons letter word ih =>
      cases s with
      | nil => exact ⟨nofun, nofun⟩
      | cons c s =>
          rw [readWord, List.cons_append, List.cons.injEq]
          by_cases hsame : c = letter
          · rw [if_pos hsame, ih]
            exact ⟨fun h => ⟨hsame, h⟩, fun h => h.2⟩
          · rw [if_neg hsame]
            exact ⟨nofun, fun h => absurd h.1 hsame⟩

/-- The spellings of the start of a value, without blanks before it. -/
inductive HeadSpelling : List Char → Head → Prop where
  | null : HeadSpelling "null".toList .null
  | true : HeadSpelling "true".toList (.bool true)
  | false : HeadSpelling "false".toList (.bool false)
  | number {s : List Char} {l : Literal} {n : Number} (hliteral : LiteralSpelling s l)
      (hvalue : l.number = .ok n) : HeadSpelling s (.number n)
  | string {s text : List Char} (hchars : TextSpelling s text) :
      HeadSpelling ('"' :: (s ++ ['"'])) (.string text)
  | openList : HeadSpelling ['['] .openList
  | openObject : HeadSpelling ['\x7b'] .openObject

/-- Blanks before a value make no difference to its head. -/
theorem readHead_append {b : List Char} (hblanks : Blanks b) (s : List Char) :
    readHead (b ++ s) = readHead s := by
  rw [readHead, readHead, skipBlank_append hblanks]

/-- A word that is read behind its first letter is a head. -/
private theorem exists_headSpelling_of_readWord {letter c : Char} {word tail rest : List Char}
    {h head : Head} (hspelled : HeadSpelling (letter :: word) head) (hfirst : c = letter)
    (hok : (readWord word tail).map (fun rest => (head, rest)) = .ok (h, rest)) :
    ∃ p, HeadSpelling p h ∧ c :: tail = p ++ rest := by
  obtain ⟨after, hread, hsame⟩ := exists_of_map_eq_ok hok
  cases hsame
  rw [readWord_eq_ok_iff.mp hread, hfirst]
  exact ⟨letter :: word, hspelled, rfl⟩

/-- What `readHead` accepts at its first character is spelled there. -/
private theorem readHead_sound_of_visible {s t rest : List Char} {h : Head}
    (hstart : skipBlank s = t) (hok : readHead s = .ok (h, rest)) :
    ∃ p, HeadSpelling p h ∧ t = p ++ rest := by
  unfold readHead at hok
  rw [hstart] at hok
  cases t with
  | nil => cases hok
  | cons c tail =>
      -- One case for each first character, in the order in which they are tried.
      simp only at hok
      split at hok
      · next hquote =>
          obtain ⟨⟨text, after⟩, hread, hsame⟩ := exists_of_map_eq_ok hok
          cases hsame
          obtain ⟨p, hchars, rfl⟩ := StringBody.read_eq_ok_iff.mp hread
          refine ⟨'"' :: (p ++ ['"']), .string hchars, ?_⟩
          rw [hquote, List.cons_append, List.append_assoc]
          rfl
      split at hok
      · next hbracket =>
          cases hok
          exact ⟨['['], .openList, by rw [hbracket]; rfl⟩
      split at hok
      · next hbrace =>
          cases hok
          exact ⟨['\x7b'], .openObject, by rw [hbrace]; rfl⟩
      split at hok
      · next hletter => exact exists_headSpelling_of_readWord .null hletter hok
      split at hok
      · next hletter => exact exists_headSpelling_of_readWord .true hletter hok
      split at hok
      · next hletter => exact exists_headSpelling_of_readWord .false hletter hok
      split at hok
      · next hsign =>
          obtain ⟨⟨n, after⟩, hread, hsame⟩ := exists_of_map_eq_ok hok
          cases hsame
          obtain ⟨p, l, rfl, hliteral, hvalue⟩ := Literal.read_sound hread
          exact ⟨'-' :: p, .number (.signed hliteral) hvalue, by rw [hsign]; rfl⟩
      split at hok
      · obtain ⟨⟨n, after⟩, hread, hsame⟩ := exists_of_map_eq_ok hok
        cases hsame
        obtain ⟨p, l, hwhole, hliteral, hvalue⟩ := Literal.read_sound hread
        exact ⟨p, .number (.unsigned hliteral) hvalue, hwhole⟩
      · cases hok

/-- What `readHead` accepts is spelled behind blanks. -/
theorem readHead_sound {s rest : List Char} {h : Head} (hok : readHead s = .ok (h, rest)) :
    ∃ b p, Blanks b ∧ HeadSpelling p h ∧ s = b ++ p ++ rest := by
  obtain ⟨b, hblanks, hsplit⟩ := exists_blanks s
  obtain ⟨p, hspelled, hstart⟩ := readHead_sound_of_visible rfl hok
  exact ⟨b, p, hblanks, hspelled, by rw [hsplit, hstart, List.append_assoc]⟩

/-- A digit is different from whatever is no digit. -/
theorem ne_of_isDigit {d c : Char} (hdigit : d.isDigit = true) (hother : c.isDigit = false) :
    d ≠ c := by
  rintro rfl
  rw [hdigit] at hother
  cases hother

/-- A literal without a sign starts with a digit. -/
theorem exists_digit_of_unsignedSpelling {negative : Bool} {p : List Char} {l : Literal}
    (hspelled : UnsignedSpelling negative p l) :
    ∃ d tail, p = d :: tail ∧ d.isDigit = true := by
  cases hspelled with
  | @parts whole fraction _ exponent _ hwholeDigits =>
      obtain ⟨d, ds, rfl⟩ := List.exists_cons_of_ne_nil hwholeDigits.1.1
      exact ⟨d, ds ++ (fraction ++ exponent), rfl, hwholeDigits.1.2 d List.mem_cons_self⟩

/-- A head is read wherever it stands; a number must not be continued by what
follows it. -/
theorem readHead_complete {b p rest : List Char} {h : Head} (hblanks : Blanks b)
    (hspelled : HeadSpelling p h) (hends : ∀ n, h = .number n → EndsLiteral rest) :
    readHead (b ++ p ++ rest) = .ok (h, rest) := by
  rw [List.append_assoc, readHead_append hblanks]
  cases hspelled with
  | null => simp [readHead, skipBlank_cons, readWord, Except.map]
  | true => simp [readHead, skipBlank_cons, readWord, Except.map]
  | false => simp [readHead, skipBlank_cons, readWord, Except.map]
  | openList => simp [readHead, skipBlank_cons]
  | openObject => simp [readHead, skipBlank_cons]
  | @string s text hchars =>
      have hread := StringBody.read_eq_ok_iff.mpr
        ⟨s, hchars, (rfl : s ++ '"' :: rest = s ++ '"' :: rest)⟩
      simp [readHead, skipBlank_cons, hread, Except.map]
  | @number s l n hliteral hvalue =>
      have hcontinued := hends n rfl
      cases hliteral with
      | signed hliteral =>
          have hread := Literal.read_complete hliteral hvalue hcontinued
          simp [readHead, skipBlank_cons, hread, Except.map]
      | unsigned hliteral =>
          have hread := Literal.read_complete hliteral hvalue hcontinued
          -- A digit is none of the characters that the other heads start with.
          obtain ⟨d, tail, rfl, hdigit⟩ := exists_digit_of_unsignedSpelling hliteral
          have hother : ∀ c, c.isDigit = false → d ≠ c := fun c => ne_of_isDigit hdigit
          have hvisible : d ∉ [' ', '\t', '\n', '\r'] := by
            intro hblank
            have hall : ∀ c ∈ [' ', '\t', '\n', '\r'], c.isDigit = false :=
              forall_mem_of_all (by decide)
            exact hother d (hall d hblank) rfl
          rw [List.cons_append] at hread ⊢
          rw [readHead, skipBlank_cons hvisible]
          simp only [if_neg (hother '"' rfl), if_neg (hother '[' rfl), if_neg (hother '\x7b' rfl),
            if_neg (hother 'n' rfl), if_neg (hother 't' rfl), if_neg (hother 'f' rfl),
            if_neg (hother '-' rfl), if_pos hdigit, hread, Except.map]

/-! ### Typed readers -/

/-- The reader `read` reads the values of the type that `Denotes` describes:
what it accepts is, after blanks, the spelling of a tree that denotes what it
returns; and it accepts every such spelling, wherever a literal would end. -/
structure Reads {α : Type} (read : List Char → Except Fault (α × List Char))
    (Denotes : Tree → α → Prop) : Prop where
  sound {s rest : List Char} {v : α} (hok : read s = .ok (v, rest)) :
    ∃ b p t, Blanks b ∧ Spelling p t ∧ Denotes t v ∧ s = b ++ p ++ rest
  complete {b p rest : List Char} {t : Tree} {v : α} (hblanks : Blanks b) (hspelled : Spelling p t)
    (hdenotes : Denotes t v) (hends : EndsLiteral rest) : read (b ++ p ++ rest) = .ok (v, rest)

/-- The tree of a string. -/
def Tree.ofString (text : String) : Tree := .string text.toList

/-- The integer that a literal spells: no fraction, no exponent, and no sign on
a zero. -/
def Literal.Spells (l : Literal) (n : Int) : Prop :=
  l.fraction = [] ∧ l.exponent = none ∧ ¬ (l.negative = true ∧ l.wholeValue = 0)
    ∧ n = if l.negative then -(l.wholeValue : Int) else l.wholeValue

/-- A number literal of an integer in the range of 32 bits. -/
def DenotesInt32 (t : Tree) (i : Int32) : Prop :=
  ∃ l, t = .number l ∧ l.Spells i.toInt

/-- A `null`, or a literal whose value is not out of range, taken to 32 bits. -/
def DenotesOptionalSingle (t : Tree) (x : Option Single) : Prop :=
  t = .null ∧ x = none ∨ ∃ l n, t = .number l ∧ l.number = .ok n ∧ x = some n.toSingle

/-- A string is read exactly where one comes next. -/
theorem readString_eq_ok_iff {s text rest : List Char} :
    readString s = .ok (text, rest)
      ↔ ∃ b p, Blanks b ∧ Spelling p (.string text) ∧ s = b ++ p ++ rest := by
  constructor
  · intro hok
    unfold readString at hok
    split at hok
    · cases hok
    · next hhead =>
        cases hok
        obtain ⟨b, p, hblanks, hspelled, rfl⟩ := readHead_sound hhead
        cases hspelled with
        | string hchars => exact ⟨b, _, hblanks, .string hchars, rfl⟩
    · cases hok
  · rintro ⟨b, p, hblanks, hspelled, rfl⟩
    cases hspelled with
    | string hchars =>
        rw [readString, readHead_complete hblanks (.string hchars) (fun n hsame => nomatch hsame)]

/-- The reader of strings reads the spellings of strings. -/
theorem reads_string :
    Reads readString fun t text => t = .string text where
  sound := fun hok => by
    obtain ⟨b, p, hblanks, hspelled, rfl⟩ := readString_eq_ok_iff.mp hok
    exact ⟨b, p, _, hblanks, hspelled, rfl, rfl⟩
  complete := fun hblanks hspelled hdenotes _ => by
    rw [hdenotes] at hspelled
    exact readString_eq_ok_iff.mpr ⟨_, _, hblanks, hspelled, rfl⟩

/-- The reader of truth values reads the two words. -/
theorem reads_bool : Reads readBool fun t x => t = .bool x where
  sound := fun hok => by
    unfold readBool at hok
    split at hok
    · cases hok
    · next hhead =>
        cases hok
        obtain ⟨b, p, hblanks, hspelled, rfl⟩ := readHead_sound hhead
        -- Of all heads only the two words are truth values.
        cases hspelled with
        | true => exact ⟨b, _, _, hblanks, .true, rfl, rfl⟩
        | false => exact ⟨b, _, _, hblanks, .false, rfl, rfl⟩
    · cases hok
  complete := fun hblanks hspelled hdenotes _ => by
    rw [hdenotes] at hspelled
    cases hspelled with
    | true => rw [readBool, readHead_complete hblanks .true (fun n hsame => nomatch hsame)]
    | false => rw [readBool, readHead_complete hblanks .false (fun n hsame => nomatch hsame)]

/-! ### Integers of 32 bits -/

/-- An integer becomes one of 32 bits if it is in their range. -/
theorem int32?_eq_some_iff {n : Int} {i : Int32} : int32? n = some i ↔ n = i.toInt := by
  have hlow := i.le_toInt
  have hhigh := i.toInt_lt
  constructor
  · intro h
    rw [int32?] at h
    split at h
    · next hrange =>
        rw [← Option.some.inj h, Int32.toInt_ofInt_of_le (by omega) (by omega)]
    · cases h
  · rintro rfl
    rw [int32?, if_pos (by omega), Int32.ofInt_toInt]

/-- The integer that a number is, if it is one. -/
def Number.integer? : Number → Option Int
  | .natural n => some n
  | .negative n => some (-(n : Int))
  | .real _ => none

/-- An integer of 32 bits is read exactly where the head is a number that is this
integer. -/
theorem readInt32_eq_ok_iff {s rest : List Char} {i : Int32} :
    readInt32 s = .ok (i, rest)
      ↔ ∃ n, readHead s = .ok (.number n, rest) ∧ n.integer? = some i.toInt := by
  constructor
  · intro hok
    unfold readInt32 at hok
    split at hok
    · cases hok
    · next n after hhead =>
        simp only at hok
        split at hok
        · next hfits =>
            cases hok
            exact ⟨.natural n, hhead, congrArg some (int32?_eq_some_iff.mp hfits)⟩
        · cases hok
    · next n after hhead =>
        simp only at hok
        split at hok
        · next hfits =>
            cases hok
            exact ⟨.negative n, hhead, congrArg some (int32?_eq_some_iff.mp hfits)⟩
        · cases hok
    · cases hok
  · rintro ⟨n, hhead, hinteger⟩
    rw [readInt32, hhead]
    -- A natural number and a negative one are tested against the same range.
    cases n with
    | natural n =>
        have hfits := int32?_eq_some_iff.mpr (Option.some.inj hinteger)
        simp only [hfits]
    | negative n =>
        have hfits := int32?_eq_some_iff.mpr (Option.some.inj hinteger)
        simp only [hfits]
    | real x => cases hinteger

/-- A literal is worth an integer within 32 bits exactly if it spells it; such an
integer is far from the limits of 64 bits. -/
theorem exists_integer_iff {l : Literal} {i : Int32} :
    (∃ n, l.number = .ok n ∧ n.integer? = some i.toInt) ↔ l.Spells i.toInt := by
  have hlow := i.le_toInt
  have hhigh := i.toInt_lt
  constructor
  · rintro ⟨n, hvalue, hinteger⟩
    cases n with
    | natural n =>
        obtain ⟨hfraction, hexponent, hsign, rfl, -⟩ := Literal.number_eq_natural_iff.mp hvalue
        refine ⟨hfraction, hexponent, fun hzero => ?_, ?_⟩
        · rw [hsign] at hzero
          cases hzero.1
        · rw [hsign]
          exact (Option.some.inj hinteger).symm
    | negative n =>
        obtain ⟨hfraction, hexponent, hsign, rfl, hpos, -⟩ :=
          Literal.number_eq_negative_iff.mp hvalue
        refine ⟨hfraction, hexponent, fun hzero => ?_, ?_⟩
        · omega
        · rw [hsign]
          exact (Option.some.inj hinteger).symm
    | real x => cases hinteger
  · -- The range of 32 bits lies far inside the limits of the reader.
    rintro ⟨hfraction, hexponent, hnotNegativeZero, hvalue⟩
    cases hsign : l.negative with
    | false =>
        rw [hsign, if_neg Bool.false_ne_true] at hvalue
        have hfits : l.wholeValue ≤ Literal.digitLimit := by rw [Literal.digitLimit]; omega
        exact ⟨.natural l.wholeValue,
          Literal.number_eq_natural_iff.mpr ⟨hfraction, hexponent, hsign, rfl, hfits⟩,
          congrArg some hvalue.symm⟩
    | true =>
        rw [hsign, if_pos rfl] at hvalue
        have hpos : 0 < l.wholeValue :=
          Nat.pos_of_ne_zero fun hzero => hnotNegativeZero ⟨hsign, hzero⟩
        have hfits : l.wholeValue ≤ Literal.negativeLimit := by rw [Literal.negativeLimit]; omega
        exact ⟨.negative l.wholeValue,
          Literal.number_eq_negative_iff.mpr ⟨hfraction, hexponent, hsign, rfl, hpos, hfits⟩,
          congrArg some hvalue.symm⟩

/-- The reader of integers reads the literals that spell an integer of 32 bits. -/
theorem reads_int32 : Reads readInt32 DenotesInt32 where
  sound := fun hok => by
    obtain ⟨n, hhead, hinteger⟩ := readInt32_eq_ok_iff.mp hok
    obtain ⟨b, p, hblanks, hspelled, rfl⟩ := readHead_sound hhead
    cases hspelled with
    | @number s l _ hliteral hvalue =>
        exact ⟨b, p, .number l, hblanks, .number hliteral,
          ⟨l, rfl, exists_integer_iff.mp ⟨n, hvalue, hinteger⟩⟩, rfl⟩
  complete := fun hblanks hspelled hdenotes hends => by
    obtain ⟨l, rfl, hspells⟩ := hdenotes
    obtain ⟨n, hvalue, hinteger⟩ := exists_integer_iff.mpr hspells
    cases hspelled with
    | number hliteral =>
        exact readInt32_eq_ok_iff.mpr
          ⟨n, readHead_complete hblanks (.number hliteral hvalue) (fun _ _ => hends), hinteger⟩

/-- The reader of thresholds reads `null` and the literals that have a value. -/
theorem reads_optionalSingle : Reads readOptionalSingle DenotesOptionalSingle where
  sound := fun hok => by
    unfold readOptionalSingle at hok
    split at hok
    · cases hok
    · next hhead =>
        cases hok
        obtain ⟨b, p, hblanks, hspelled, rfl⟩ := readHead_sound hhead
        cases hspelled with
        | null => exact ⟨b, _, .null, hblanks, .null, .inl ⟨rfl, rfl⟩, rfl⟩
    · next n after hhead =>
        cases hok
        obtain ⟨b, p, hblanks, hspelled, rfl⟩ := readHead_sound hhead
        cases hspelled with
        | @number s l _ hliteral hvalue =>
            exact ⟨b, p, .number l, hblanks, .number hliteral, .inr ⟨l, n, rfl, hvalue, rfl⟩, rfl⟩
    · cases hok
  complete := fun hblanks hspelled hdenotes hends => by
    rcases hdenotes with ⟨rfl, rfl⟩ | ⟨l, n, rfl, hvalue, rfl⟩
    · cases hspelled with
      | null =>
          rw [readOptionalSingle,
            readHead_complete hblanks .null (fun n hsame => nomatch hsame)]
    · cases hspelled with
      | number hliteral =>
          rw [readOptionalSingle,
            readHead_complete hblanks (.number hliteral hvalue) (fun _ _ => hends)]

end ClassifierBridge.Json
