import ClassifierBridge.Proofs.Json.Items

/-!
# `ClassifierBridge.Proofs.Json.Unambiguous`: a text spells one value

The grammar says what a value may look like and leaves open how far into a text
the value reaches. Both are settled by the text: where two values start at the
same place, each followed by something that would end a literal, they are the
same value and the same rest is left (`unique_spelling`). So no two values share
a document (`Document.unique`).

The induction is on the length of what is spelled, since the items of a list or
an object are shorter than the brackets around them. Scalars need no induction:
the scanners of `Literal` and `StringBody` accept every spelling and answer once.

* `Kind.starting?`: the first character tells the kinds of values apart.
* `Bracketed.unique`: items between brackets, for any kind of item that is
  unique itself.
-/

set_option autoImplicit false

namespace ClassifierBridge.Json

/-! ### First characters -/

/-- What the first character of a value tells about it. -/
inductive Kind where
  | null
  | bool (b : Bool)
  | number
  | string
  | list
  | object
deriving DecidableEq

/-- The kind of a value. -/
def Tree.kind : Tree → Kind
  | .null => .null
  | .bool b => .bool b
  | .number _ => .number
  | .string _ => .string
  | .list _ => .list
  | .object _ => .object

/-- The kind of the values that start with a character. -/
def Kind.starting? (c : Char) : Option Kind :=
  if c = '-' ∨ c.isDigit = true then some .number
  else if c = '"' then some .string
  else if c = '[' then some .list
  else if c = '\x7b' then some .object
  else if c = 'n' then some .null
  else if c = 't' then some (.bool true)
  else if c = 'f' then some (.bool false)
  else none

/-- The first character of a value tells its kind. -/
theorem Spelling.exists_starting {p : List Char} {t : Tree} (hspelled : Spelling p t) :
    ∃ c tail, p = c :: tail ∧ Kind.starting? c = some t.kind := by
  cases hspelled with
  | null => exact ⟨'n', _, rfl, rfl⟩
  | true => exact ⟨'t', _, rfl, rfl⟩
  | false => exact ⟨'f', _, rfl, rfl⟩
  | string => exact ⟨'"', _, rfl, rfl⟩
  | number hliteral =>
      cases hliteral with
      | signed => exact ⟨'-', _, rfl, rfl⟩
      | unsigned hliteral =>
          obtain ⟨d, tail, rfl, hdigit⟩ := exists_digit_of_unsignedSpelling hliteral
          exact ⟨d, tail, rfl, if_pos (.inr hdigit)⟩
  | list hbetween =>
      obtain ⟨q, -, rfl⟩ := bracketed_iff_remaining.mp hbetween
      exact ⟨'[', _, rfl, rfl⟩
  | object hbetween =>
      obtain ⟨q, -, rfl⟩ := bracketed_iff_remaining.mp hbetween
      exact ⟨'\x7b', _, rfl, rfl⟩

/-- Neither blanks nor what stands between items starts a value. -/
theorem not_mem_of_starting? {c : Char} {k : Kind} (hstarts : Kind.starting? c = some k) :
    c ∉ [' ', '\t', '\n', '\r'] ∧ c ∉ [',', ']', '\x7d'] := by
  have hnone : ∀ m ∈ [' ', '\t', '\n', '\r'] ++ [',', ']', '\x7d'], Kind.starting? m = none :=
    forall_mem_of_all (by decide)
  rw [← not_or, ← List.mem_append]
  intro hmem
  rw [hnone c hmem] at hstarts
  cases hstarts

/-- Behind blanks, a text goes on in one way. -/
theorem eq_of_blanks_append {b b' s s' : List Char} {c c' : Char} (hblanks : Blanks b)
    (hblanks' : Blanks b') (hvisible : c ∉ [' ', '\t', '\n', '\r'])
    (hvisible' : c' ∉ [' ', '\t', '\n', '\r']) (hsame : b ++ c :: s = b' ++ c' :: s') :
    c = c' ∧ s = s' := by
  have hskipped := congrArg skipBlank hsame
  rw [skipBlank_append hblanks, skipBlank_append hblanks', skipBlank_cons hvisible,
    skipBlank_cons hvisible'] at hskipped
  exact List.cons.inj hskipped

/-! ### Scalars -/

/-- A literal and where it ends are determined by the text that it starts. -/
theorem unique_literal {p p' rest rest' : List Char} {l l' : Literal}
    (hspelled : LiteralSpelling p l) (hspelled' : LiteralSpelling p' l') (hends : EndsLiteral rest)
    (hends' : EndsLiteral rest') (hsame : p ++ rest = p' ++ rest') : l = l' ∧ rest = rest' := by
  -- Behind the same sign, the scanner has one answer for the text.
  have hscanned : ∀ {negative : Bool} {q q' : List Char}, UnsignedSpelling negative q l →
      UnsignedSpelling negative q' l' → q ++ rest = q' ++ rest' → l = l' ∧ rest = rest' := by
    intro negative q q' hliteral hliteral' hsame
    have hscan := Literal.scan_complete hliteral hends
    rw [hsame, Literal.scan_complete hliteral' hends'] at hscan
    cases hscan
    exact ⟨rfl, rfl⟩
  -- A literal without a sign starts with a digit.
  have hsign : ∀ {negative : Bool} {q r r' : List Char} {l : Literal},
      UnsignedSpelling negative q l → q ++ r ≠ '-' :: r' := by
    intro negative q r r' l hliteral hsame
    obtain ⟨d, tail, rfl, hdigit⟩ := exists_digit_of_unsignedSpelling hliteral
    exact ne_of_isDigit hdigit (by decide) (List.cons.inj hsame).1
  cases hspelled with
  | unsigned hliteral =>
      cases hspelled' with
      | unsigned hliteral' => exact hscanned hliteral hliteral' hsame
      | signed hliteral' => exact absurd hsame (hsign hliteral)
  | signed hliteral =>
      cases hspelled' with
      | unsigned hliteral' => exact absurd hsame.symm (hsign hliteral')
      | signed hliteral' => exact hscanned hliteral hliteral' (List.cons.inj hsame).2

/-- The characters of a string are determined by the text, up to the closing quote. -/
theorem unique_text {p p' rest rest' text text' : List Char} (hspelled : TextSpelling p text)
    (hspelled' : TextSpelling p' text') (hsame : p ++ '"' :: rest = p' ++ '"' :: rest') :
    text = text' ∧ rest = rest' := by
  have hread : StringBody.read (p ++ '"' :: rest) = .ok (text, rest) :=
    StringBody.read_eq_ok_iff.mpr ⟨p, hspelled, rfl⟩
  rw [hsame, StringBody.read_eq_ok_iff.mpr ⟨p', hspelled', rfl⟩] at hread
  cases hread
  exact ⟨rfl, rfl⟩

/-! ### Items -/

section Items

variable {α : Type}

/-- What `p` spells is an item in one way, and it ends where `p` ends. -/
def Unique (Item : List Char → α → Prop) (p : List Char) : Prop :=
  ∀ ⦃p' rest rest' : List Char⦄ ⦃x x' : α⦄, Item p x → Item p' x' → EndsLiteral rest →
    EndsLiteral rest' → p ++ rest = p' ++ rest' → x = x' ∧ rest = rest'

/-- Every item starts with a character that is neither a blank nor stands between
items. -/
def Visible (Item : List Char → α → Prop) : Prop :=
  ∀ ⦃p : List Char⦄ ⦃x : α⦄, Item p x →
    ∃ c tail, p = c :: tail ∧ c ∉ [' ', '\t', '\n', '\r'] ∧ c ∉ [',', ']', '\x7d']

variable {Item : List Char → α → Prop}

/-- A gap ends where the item behind it starts, so the items start at one place. -/
theorem Gap.aligned (hvisible : Visible Item) {first : Bool} {gap gap' s s' rest rest' : List Char}
    {x x' : α} (hbefore : Gap first gap) (hbefore' : Gap first gap') (hitem : Item s x)
    (hitem' : Item s' x') (hsame : gap ++ (s ++ rest) = gap' ++ (s' ++ rest')) :
    s ++ rest = s' ++ rest' := by
  obtain ⟨c, tail, rfl, hstarts, -⟩ := hvisible hitem
  obtain ⟨c', tail', rfl, hstarts', -⟩ := hvisible hitem'
  rw [List.cons_append, List.cons_append] at hsame ⊢
  rw [List.cons.injEq]
  cases hbefore with
  | first hblanks =>
      cases hbefore' with
      | first hblanks' => exact eq_of_blanks_append hblanks hblanks' hstarts hstarts' hsame
  | later hleading htrailing =>
      cases hbefore' with
      | later hleading' htrailing' =>
          simp only [List.append_assoc, List.cons_append] at hsame
          obtain ⟨-, hsame⟩ := eq_of_blanks_append hleading hleading' (by decide) (by decide) hsame
          exact eq_of_blanks_append htrailing htrailing' hstarts hstarts' hsame

/-- Where an item follows its gap, the bracket does not close. -/
theorem Gap.ne_closing (hvisible : Visible Item) {first : Bool} {gap b s s' rest : List Char}
    {x : α} {closing : Char} (hbefore : Gap first gap) (hitem : Item s x) (hblanks : Blanks b)
    (hmark : closing ∈ [']', '\x7d']) : gap ++ (s ++ s') ≠ b ++ closing :: rest := by
  obtain ⟨c, tail, rfl, hstarts, hbetween⟩ := hvisible hitem
  have hmarks : ∀ m ∈ [']', '\x7d'], m ∉ [' ', '\t', '\n', '\r'] ∧ ',' ≠ m :=
    forall_mem_of_all (by decide)
  obtain ⟨hshown, hcomma⟩ := hmarks closing hmark
  rw [List.cons_append]
  intro hsame
  cases hbefore with
  | first hblanks' =>
      obtain ⟨rfl, -⟩ := eq_of_blanks_append hblanks' hblanks hstarts hshown hsame
      exact hbetween (List.mem_cons_of_mem ',' hmark)
  | later hleading htrailing =>
      rw [List.append_assoc, List.cons_append] at hsame
      exact hcomma (eq_of_blanks_append hleading hblanks (by decide) hshown hsame).1

/-- The items up to a closing bracket are the same however the text is taken
apart. -/
theorem Remaining.unique (hvisible : Visible Item) {closing : Char}
    (hmark : closing ∈ [']', '\x7d']) {first : Bool} {p p' rest rest' : List Char}
    {xs xs' : List α} (hitems : Remaining Item first p xs) (hitems' : Remaining Item first p' xs')
    (hone : ∀ q : List Char, q.length ≤ p.length → Unique Item q)
    (hsame : p ++ closing :: rest = p' ++ closing :: rest') : xs = xs' ∧ rest = rest' := by
  have hmarks : closing ∈ [',', ']', '\x7d'] := List.mem_cons_of_mem ',' hmark
  -- By induction on the items of one side; the gap and the first item settle where the other
  -- side stands.
  induction hitems generalizing p' xs' with
  | nil hblanks =>
      cases hitems' with
      | nil hblanks' =>
          have hshown : ∀ m ∈ [']', '\x7d'], m ∉ [' ', '\t', '\n', '\r'] :=
            forall_mem_of_all (by decide)
          obtain ⟨-, hleft⟩ := eq_of_blanks_append hblanks hblanks' (hshown closing hmark)
            (hshown closing hmark) hsame
          exact ⟨rfl, hleft⟩
      | cons hbefore' hitem' =>
          simp only [List.append_assoc] at hsame
          exact absurd hsame.symm (hbefore'.ne_closing hvisible hitem' hblanks hmark)
  | @cons first gap s more x xs hbefore hitem hitems ih =>
      simp only [List.append_assoc] at hsame
      cases hitems' with
      | nil hblanks' => exact absurd hsame (hbefore.ne_closing hvisible hitem hblanks' hmark)
      | @cons _ gap' s' more' x' xs' hbefore' hitem' hitems' =>
          simp only [List.append_assoc] at hsame
          have haligned := hbefore.aligned hvisible hbefore' hitem hitem' hsame
          have hshort : s.length ≤ (gap ++ s ++ more).length := by
            simp only [List.length_append]
            omega
          have hshorter : more.length ≤ (gap ++ s ++ more).length := by
            simp only [List.length_append]
            omega
          obtain ⟨rfl, hleft⟩ := hone s hshort hitem hitem' (hitems.endsLiteral hmarks rest)
            (hitems'.endsLiteral hmarks rest') haligned
          obtain ⟨rfl, hleft⟩ := ih hitems' (fun q hle => hone q (Nat.le_trans hle hshorter)) hleft
          exact ⟨rfl, hleft⟩

/-- Items between brackets are unique if items are that are shorter than both. -/
theorem Bracketed.unique (hvisible : Visible Item) {opening closing : Char}
    (hmark : closing ∈ [']', '\x7d']) {p p' rest rest' : List Char} {xs xs' : List α}
    (hbetween : Bracketed opening closing Item p xs)
    (hbetween' : Bracketed opening closing Item p' xs')
    (hone : ∀ q : List Char, q.length < p.length → Unique Item q)
    (hsame : p ++ rest = p' ++ rest') : xs = xs' ∧ rest = rest' := by
  obtain ⟨q, hitems, rfl⟩ := bracketed_iff_remaining.mp hbetween
  obtain ⟨q', hitems', rfl⟩ := bracketed_iff_remaining.mp hbetween'
  simp only [List.cons_append, List.append_assoc, List.cons.injEq, true_and,
    List.nil_append] at hsame
  refine hitems.unique hvisible hmark hitems' (fun r hle => hone r ?_) hsame
  simp only [List.length_cons, List.length_append]
  omega

end Items

/-! ### Values -/

/-- Every value starts with a character of its own. -/
theorem visible_spelling : Visible Spelling := fun p t hspelled => by
  obtain ⟨c, tail, hstart, hstarts⟩ := hspelled.exists_starting
  exact ⟨c, tail, hstart, not_mem_of_starting? hstarts⟩

/-- Every member starts with the quote of its key. -/
theorem visible_member : Visible Member := fun p m hmember => by
  cases hmember with
  | mk => exact ⟨'"', _, rfl, by decide⟩

/-- A member is unique if values are that are shorter than it. -/
theorem unique_member {p : List Char}
    (hvalue : ∀ q : List Char, q.length < p.length → Unique Spelling q) : Unique Member p := by
  intro p' rest rest' x x' hmember hmember' hends hends' hsame
  cases hmember with
  | @mk s key b a v t hkeyChars hleading htrailing hspelled =>
      cases hmember' with
      | @mk s' key' b' a' v' t' hkeyChars' hleading' htrailing' hspelled' =>
          -- The value is shorter than the member, so it is unique by assumption.
          have hshorter : v.length < ('"' :: (s ++ '"' :: (b ++ ':' :: (a ++ v)))).length := by
            simp only [List.length_append, List.length_cons]
            omega
          simp only [List.cons_append, List.append_assoc, List.cons.injEq, true_and] at hsame
          obtain ⟨rfl, hsame⟩ := unique_text hkeyChars hkeyChars' hsame
          obtain ⟨-, hsame⟩ := eq_of_blanks_append hleading hleading' (by decide) (by decide) hsame
          have haligned :=
            (Gap.first htrailing).aligned visible_spelling (.first htrailing') hspelled
            hspelled' hsame
          obtain ⟨rfl, hleft⟩ := hvalue v hshorter hspelled hspelled' hends hends' haligned
          exact ⟨rfl, hleft⟩

/-- A value and where it ends are determined by the text that it starts. -/
theorem unique_spelling (p : List Char) : Unique Spelling p := by
  induction hlength : p.length using Nat.strongRecOn generalizing p with
  | ind n ih =>
      subst hlength
      intro p' rest rest' t t' hspelled hspelled' hends hends' hsame
      -- Values that start alike are of one kind.
      have hkinds : t.kind = t'.kind := by
        obtain ⟨c, tail, rfl, hstarts⟩ := hspelled.exists_starting
        obtain ⟨c', tail', rfl, hstarts'⟩ := hspelled'.exists_starting
        obtain rfl : c = c' := (List.cons.inj hsame).1
        rw [hstarts] at hstarts'
        exact Option.some.inj hstarts'
      cases hspelled with
      | null =>
          cases hspelled' with
          | null => exact ⟨rfl, List.append_cancel_left hsame⟩
          | _ => cases hkinds
      | true =>
          cases hspelled' with
          | true => exact ⟨rfl, List.append_cancel_left hsame⟩
          | _ => cases hkinds
      | false =>
          cases hspelled' with
          | false => exact ⟨rfl, List.append_cancel_left hsame⟩
          | _ => cases hkinds
      | number hliteral =>
          cases hspelled' with
          | number hliteral' =>
              obtain ⟨rfl, hleft⟩ := unique_literal hliteral hliteral' hends hends' hsame
              exact ⟨rfl, hleft⟩
          | _ => cases hkinds
      | string hchars =>
          cases hspelled' with
          | string hchars' =>
              simp only [List.cons_append, List.append_assoc, List.cons.injEq, true_and,
                List.nil_append] at hsame
              obtain ⟨rfl, hleft⟩ := unique_text hchars hchars' hsame
              exact ⟨rfl, hleft⟩
          | _ => cases hkinds
      | list hbetween =>
          cases hspelled' with
          | list hbetween' =>
              obtain ⟨rfl, hleft⟩ := hbetween.unique visible_spelling (by decide) hbetween'
                (fun q hshorter => ih q.length hshorter q rfl) hsame
              exact ⟨rfl, hleft⟩
          | _ => cases hkinds
      | object hbetween =>
          cases hspelled' with
          | object hbetween' =>
              obtain ⟨rfl, hleft⟩ := hbetween.unique visible_member (by decide) hbetween'
                (fun q hshorter => unique_member fun v hless =>
                  ih v.length (Nat.lt_trans hless hshorter) v rfl) hsame
              exact ⟨rfl, hleft⟩
          | _ => cases hkinds

/-- A text is the document of one value. -/
theorem Document.unique {s : List Char} {t t' : Tree} (hdocument : Document s t)
    (hdocument' : Document s t') : t = t' := by
  cases hdocument with
  | @mk b p a _ hleading hspelled htrailing =>
      generalize hwhole : b ++ p ++ a = s at hdocument'
      cases hdocument' with
      | @mk b' p' a' _ hleading' hspelled' htrailing' =>
          rw [List.append_assoc, List.append_assoc] at hwhole
          -- Both values start behind the leading blanks, at the same place.
          have haligned := (Gap.first hleading).aligned visible_spelling (.first hleading') hspelled
            hspelled' hwhole
          exact (unique_spelling p hspelled hspelled' htrailing.endsLiteral htrailing'.endsLiteral
            haligned).1

end ClassifierBridge.Json
