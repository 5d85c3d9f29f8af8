import ClassifierBridge.Proofs.Json.Value

/-!
# `ClassifierBridge.Proofs.Json.Items`: lists and objects, item by item

The grammar has the items of a list or an object as a whole, the readers take
one at a time and look for a comma before all but the first. `Remaining` is the
grammar from the readers' side: what is still to come up to the closing bracket
when the next item is the first or a later one.

* `bracketed_iff_remaining`: at the opening bracket the two agree.
* `nextElement_eq_item_sound`, `nextElement_item`, `nextElement_eq_close_iff` and
  their counterparts for `nextMember`: finding the next item.
* `reads_stringList`: lists of strings.
-/

set_option autoImplicit false

namespace ClassifierBridge.Json

/-- What stands before an item: blanks, and a comma unless it is the first. -/
inductive Gap : Bool → List Char → Prop where
  | first {b : List Char} (hblanks : Blanks b) : Gap true b
  | later {b b' : List Char} (hleading : Blanks b) (htrailing : Blanks b') :
      Gap false (b ++ ',' :: b')

/-- Blanks after a gap belong to it. -/
theorem Gap.append {first : Bool} {gap b : List Char} (hbefore : Gap first gap)
    (hblanks : Blanks b) : Gap first (gap ++ b) := by
  have hjoin : ∀ {b' : List Char}, Blanks b' → Blanks (b' ++ b) := fun hblanks' c hmem =>
    (List.mem_append.mp hmem).elim (hblanks' c) (hblanks c)
  cases hbefore with
  | first hblanks' => exact .first (hjoin hblanks')
  | later hleading htrailing =>
      rw [List.append_assoc, List.cons_append]
      exact .later hleading (hjoin htrailing)

section Items

variable {α : Type} {Item : List Char → α → Prop}

/-- What is left before a closing bracket: the items still to come, each behind
its gap, and blanks at the end. The flag says that no item came before. -/
inductive Remaining (Item : List Char → α → Prop) : Bool → List Char → List α → Prop where
  | nil {first : Bool} {b : List Char} (hblanks : Blanks b) : Remaining Item first b []
  | cons {first : Bool} {gap s rest : List Char} {x : α} {xs : List α} (hbefore : Gap first gap)
      (hitem : Item s x) (hitems : Remaining Item false rest xs) :
      Remaining Item first (gap ++ s ++ rest) (x :: xs)

/-- Behind a comma, the first of some items is a later one. -/
theorem Remaining.comma {s b : List Char} {x : α} {xs : List α}
    (hitems : Remaining Item true s (x :: xs)) (hblanks : Blanks b) :
    Remaining Item false (b ++ ',' :: s) (x :: xs) := by
  cases hitems with
  | @cons _ gap s rest _ _ hbefore hitem hitems =>
      cases hbefore with
      | first hleading =>
          have hsplit : b ++ ',' :: (gap ++ s ++ rest) = (b ++ ',' :: gap) ++ s ++ rest := by
            simp only [List.append_assoc, List.cons_append]
          rw [hsplit]
          exact .cons (.later hblanks hleading) hitem hitems

/-- Items that commas separate are all still to come before the first of them. -/
theorem remaining_of_separated {s : List Char} {xs : List α} (hitems : Separated Item s xs) :
    Remaining Item true s xs := by
  induction hitems with
  | one hleading hitem htrailing => exact .cons (.first hleading) hitem (.nil htrailing)
  | @more before s after rest x xs hleading hitem htrailing hitems ih =>
      rw [List.append_assoc]
      refine .cons (.first hleading) hitem ?_
      -- The blanks after an item belong to the gap before the next one.
      cases hitems with
      | one => exact ih.comma htrailing
      | more => exact ih.comma htrailing

/-- And back: what is still to come before the first of some items are items that
commas separate. -/
theorem separated_of_remaining {s : List Char} {x : α} {xs : List α}
    (hitems : Remaining Item true s (x :: xs)) : Separated Item s (x :: xs) := by
  -- By induction on the items behind the first, whose gap holds the comma.
  induction xs generalizing s x with
  | nil =>
      cases hitems with
      | cons hbefore hitem hitems =>
          cases hbefore with
          | first hleading =>
              cases hitems with
              | nil htrailing => exact .one hleading hitem htrailing
  | cons y ys ih =>
      cases hitems with
      | @cons _ gap s _ _ _ hbefore hitem hitems =>
          cases hbefore with
          | first hleading =>
              cases hitems with
              | @cons _ _ s' rest _ _ hbefore' hitem' hitems' =>
                  cases hbefore' with
                  | @later b b' htrailing hleading' =>
                      have hseparated := ih (.cons (.first hleading') hitem' hitems')
                      have hsplit : gap ++ s ++ (b ++ ',' :: b' ++ s' ++ rest)
                          = gap ++ s ++ b ++ ',' :: (b' ++ s' ++ rest) := by
                        simp only [List.append_assoc, List.cons_append]
                      rw [hsplit]
                      exact .more hleading hitem htrailing hseparated

/-- Right after the opening bracket all items remain. -/
theorem bracketed_iff_remaining {opening closing : Char} {s : List Char} {xs : List α} :
    Bracketed opening closing Item s xs
      ↔ ∃ p, Remaining Item true p xs ∧ s = opening :: (p ++ [closing]) := by
  constructor
  · intro hbracketed
    cases hbracketed with
    -- Blanks alone, or items; in both cases the brackets are taken off.
    | none hblanks => exact ⟨_, .nil hblanks, rfl⟩
    | some hitems => exact ⟨_, remaining_of_separated hitems, rfl⟩
  · rintro ⟨p, hitems, rfl⟩
    cases xs with
    | nil =>
        cases hitems with
        | nil hblanks => exact .none hblanks
    | cons x xs => exact .some (separated_of_remaining hitems)

/-- Neither a blank nor what stands between items is part of a literal. -/
theorem not_part_of_literal : ∀ c ∈ [' ', '\t', '\n', '\r'] ++ [',', ']', '\x7d'],
    c.isDigit = false ∧ c ≠ '.' ∧ c ≠ 'e' ∧ c ≠ 'E' := forall_mem_of_all (by decide)

/-- No literal goes on at blanks. -/
theorem Blanks.endsLiteral {b : List Char} (hblanks : Blanks b) : EndsLiteral b := fun c hnext =>
  not_part_of_literal c (List.mem_append_left _ (hblanks c (List.mem_of_mem_head? hnext)))

/-- No literal goes on at blanks, a comma or a closing bracket. -/
theorem endsLiteral_append {b : List Char} (hblanks : Blanks b) {c : Char}
    (hmark : c ∈ [',', ']', '\x7d']) (rest : List Char) : EndsLiteral (b ++ c :: rest) := by
  cases b with
  | nil =>
      rintro _ ⟨⟩
      exact not_part_of_literal c (List.mem_append_right _ hmark)
  | cons d b =>
      rintro _ ⟨⟩
      exact hblanks.endsLiteral d rfl

/-- What comes after an item continues no literal. -/
theorem Remaining.endsLiteral {p : List Char} {xs : List α} (hitems : Remaining Item false p xs)
    {closing : Char} (hmark : closing ∈ [',', ']', '\x7d']) (rest : List Char) :
    EndsLiteral (p ++ closing :: rest) := by
  -- The bracket comes next, or the comma before the next item.
  cases hitems with
  | nil hblanks => exact endsLiteral_append hblanks hmark rest
  | cons hbefore hitem hitems =>
      cases hbefore with
      | @later b b' hleading htrailing =>
          simp only [List.append_assoc, List.cons_append]
          exact endsLiteral_append hleading List.mem_cons_self _

end Items

/-! ### Elements -/

/-- The end of a list is found where a closing bracket comes next, and only there. -/
theorem nextElement_eq_close_iff {first : Bool} {s rest : List Char} :
    nextElement first s = .ok (.close rest) ↔ ∃ b, Blanks b ∧ s = b ++ ']' :: rest := by
  constructor
  · intro h
    unfold nextElement at h
    split at h
    · cases h
    · next c tail hstart =>
        obtain ⟨b, hblanks, rfl⟩ := exists_blanks_of_skipBlank hstart
        split at h
        · next hbracket =>
            cases h
            exact ⟨b, hblanks, by rw [hbracket]⟩
        · -- The other answers are items and faults.
          repeat' split at h
          all_goals cases h
  · rintro ⟨b, hblanks, rfl⟩
    rw [nextElement, skipBlank_append hblanks, skipBlank_cons (by decide)]
    rfl

/-- An element is found behind the gap that is due before it. -/
theorem nextElement_eq_item_sound {first : Bool} {s item : List Char}
    (h : nextElement first s = .ok (.item item)) : ∃ gap, Gap first gap ∧ s = gap ++ item := by
  unfold nextElement at h
  split at h
  · cases h
  · next c tail hstart =>
      obtain ⟨b, hblanks, rfl⟩ := exists_blanks_of_skipBlank hstart
      split at h
      · cases h
      · split at h
        · next hisFirst =>
            cases h
            rw [hisFirst]
            exact ⟨b, .first hblanks, rfl⟩
        · next hnotFirst =>
            rw [Bool.not_eq_true] at hnotFirst
            rw [hnotFirst]
            split at h
            · cases h
            · next hcomma =>
                rw [Decidable.not_not] at hcomma
                split at h
                · cases h
                · next hstart' =>
                    obtain ⟨b', hblanks', rfl⟩ := exists_blanks_of_skipBlank hstart'
                    split at h
                    · cases h
                    · cases h
                      refine ⟨b ++ ',' :: b', .later hblanks hblanks', ?_⟩
                      rw [hcomma, List.append_assoc, List.cons_append]

/-- An element that is due is found at its first character. -/
theorem nextElement_item {first : Bool} {gap : List Char} (hbefore : Gap first gap) {c : Char}
    (hvisible : c ∉ [' ', '\t', '\n', '\r']) (hitem : c ≠ ']') (rest : List Char) :
    nextElement first (gap ++ c :: rest) = .ok (.item (c :: rest)) := by
  cases hbefore with
  | first hblanks =>
      rw [nextElement, skipBlank_append hblanks, skipBlank_cons hvisible]
      simp only [if_neg hitem, if_true]
  | later hleading htrailing =>
      rw [List.append_assoc, List.cons_append, nextElement, skipBlank_append hleading,
        skipBlank_cons (by decide)]
      simp only [Char.reduceEq, if_false, Bool.false_eq_true, ne_eq, not_true_eq_false,
        skipBlank_append htrailing, skipBlank_cons hvisible, if_neg hitem]

/-! ### Members -/

/-- The end of an object is found where a closing brace comes next, and only there. -/
theorem nextMember_eq_close_iff {first : Bool} {s rest : List Char} :
    nextMember first s = .ok (.close rest) ↔ ∃ b, Blanks b ∧ s = b ++ '\x7d' :: rest := by
  constructor
  · intro h
    unfold nextMember at h
    split at h
    · cases h
    · next c tail hstart =>
        obtain ⟨b, hblanks, rfl⟩ := exists_blanks_of_skipBlank hstart
        split at h
        · next hbrace =>
            cases h
            exact ⟨b, hblanks, by rw [hbrace]⟩
        · repeat' split at h
          all_goals cases h
  · rintro ⟨b, hblanks, rfl⟩
    rw [nextMember, skipBlank_append hblanks, skipBlank_cons (by decide)]
    rfl

/-- A member starts with the quote of its key, so nothing but its gap decides
that it is found. -/
theorem nextMember_eq_item_iff {first : Bool} {s item : List Char} :
    nextMember first s = .ok (.item item) ↔ ∃ gap, Gap first gap ∧ s = gap ++ '"' :: item := by
  constructor
  · intro h
    unfold nextMember at h
    split at h
    · cases h
    · next c tail hstart =>
        obtain ⟨b, hblanks, rfl⟩ := exists_blanks_of_skipBlank hstart
        split at h
        · cases h
        · split at h
          · next hisFirst =>
              split at h
              · next hquote =>
                  cases h
                  rw [hisFirst, hquote]
                  exact ⟨b, .first hblanks, rfl⟩
              · cases h
          · next hnotFirst =>
              rw [Bool.not_eq_true] at hnotFirst
              rw [hnotFirst]
              split at h
              · cases h
              · next hcomma =>
                  rw [Decidable.not_not] at hcomma
                  split at h
                  · cases h
                  · next hstart' =>
                      obtain ⟨b', hblanks', rfl⟩ := exists_blanks_of_skipBlank hstart'
                      split at h
                      · next hquote =>
                          cases h
                          refine ⟨b ++ ',' :: b', .later hblanks hblanks', ?_⟩
                          rw [hcomma, hquote, List.append_assoc, List.cons_append]
                      · split at h
                        · cases h
                        · cases h
  · rintro ⟨gap, hbefore, rfl⟩
    -- The quote is visible, so it is found behind any gap.
    have hquote : '"' ∉ [' ', '\t', '\n', '\r'] := by decide
    cases hbefore with
    | first hblanks =>
        rw [nextMember, skipBlank_append hblanks, skipBlank_cons hquote]
        simp only [Char.reduceEq, if_false, if_true]
    | later hleading htrailing =>
        rw [List.append_assoc, List.cons_append, nextMember, skipBlank_append hleading,
          skipBlank_cons (by decide)]
        simp only [Char.reduceEq, if_false, Bool.false_eq_true, ne_eq, not_true_eq_false,
          skipBlank_append htrailing, skipBlank_cons hquote, if_true]

/-- A colon is read with the blanks before it. -/
theorem readColon_eq_ok_iff {s rest : List Char} :
    readColon s = .ok rest ↔ ∃ b, Blanks b ∧ s = b ++ ':' :: rest := by
  constructor
  · intro h
    unfold readColon at h
    split at h
    · cases h
    · next c tail hstart =>
        obtain ⟨b, hblanks, rfl⟩ := exists_blanks_of_skipBlank hstart
        split at h
        · next hcolon =>
            cases h
            exact ⟨b, hblanks, by rw [hcolon]⟩
        · cases h
  · rintro ⟨b, hblanks, rfl⟩
    rw [readColon, skipBlank_append hblanks, skipBlank_cons (by decide)]
    rfl

/-! ### Lists of strings -/

/-- No string is left where the bracket closes. -/
theorem readStrings_close {b : List Char} (hblanks : Blanks b) (first : Bool) (rest : List Char) :
    readStrings first (b ++ ']' :: rest) = .ok ([], rest) := by
  have hclose : nextElement first (b ++ ']' :: rest) = .ok (.close rest) :=
    nextElement_eq_close_iff.mpr ⟨b, hblanks, rfl⟩
  rw [readStrings]
  split
  · next hfailed => rw [hclose] at hfailed; cases hfailed
  · next hclosed => rw [hclose] at hclosed; cases hclosed; rfl
  · next hitem => rw [hclose] at hitem; cases hitem

/-- A string that is due is taken off the front. -/
theorem readStrings_item {first : Bool} {gap p text : List Char} (hbefore : Gap first gap)
    (hspelled : Spelling p (.string text)) (s : List Char) :
    readStrings first (gap ++ p ++ s)
      = (readStrings false s).map fun (texts, rest) => (String.ofList text :: texts, rest) := by
  have hread : readString (p ++ s) = .ok (text, s) :=
    readString_eq_ok_iff.mpr ⟨[], p, blanks_nil, hspelled, rfl⟩
  have hfound : nextElement first (gap ++ p ++ s) = .ok (.item (p ++ s)) := by
    rw [List.append_assoc]
    -- The quote is what makes the string visible as an element.
    cases hspelled with
    | string => exact nextElement_item hbefore (by decide) (by decide) _
  rw [readStrings]
  split
  · next hfailed => rw [hfound] at hfailed; cases hfailed
  · next hclosed => rw [hfound] at hclosed; cases hclosed
  · next hitem =>
      rw [hfound] at hitem
      cases hitem
      split
      · next hfailed => rw [hread] at hfailed; cases hfailed
      · next htaken => rw [hread] at htaken; cases htaken; rfl

/-- The strings of a list are read exactly where they and the closing bracket
come next. -/
theorem readStrings_eq_ok_iff {first : Bool} {s rest : List Char} {texts : List String} :
    readStrings first s = .ok (texts, rest)
      ↔ ∃ p, Remaining Spelling first p (texts.map Tree.ofString) ∧ s = p ++ ']' :: rest := by
  constructor
  · intro h
    -- By induction on the strings as they are taken.
    fun_induction readStrings first s generalizing texts rest with
    | case1 => cases h
    | case2 first s after hclose =>
        cases h
        obtain ⟨b, hblanks, rfl⟩ := nextElement_eq_close_iff.mp hclose
        exact ⟨b, .nil hblanks, rfl⟩
    | case3 => cases h
    | case4 first s item hnext text after hread ih =>
        obtain ⟨⟨texts', rest'⟩, hothers, hsame⟩ := exists_of_map_eq_ok h
        cases hsame
        obtain ⟨gap, hbefore, rfl⟩ := nextElement_eq_item_sound hnext
        obtain ⟨b, p, hblanks, hspelled, rfl⟩ := readString_eq_ok_iff.mp hread
        obtain ⟨q, hitems, rfl⟩ := ih hothers
        have htree : Tree.ofString (String.ofList text) = .string text := by
          rw [Tree.ofString, String.toList_ofList]
        rw [List.map_cons, htree]
        exact ⟨gap ++ b ++ p ++ q, .cons (hbefore.append hblanks) hspelled hitems, by
          simp only [List.append_assoc]⟩
  · rintro ⟨p, hitems, rfl⟩
    -- By induction on the strings that remain.
    induction texts generalizing first p with
    | nil =>
        cases hitems with
        | nil hblanks => exact readStrings_close hblanks first rest
    | cons text texts ih =>
        cases hitems with
        | cons hbefore hitem hitems =>
            rw [List.append_assoc, readStrings_item hbefore hitem,
              ih _ hitems, String.ofList_toList]
            rfl

/-- The reader of lists of strings reads the spellings of lists whose items are all
strings. -/
theorem reads_stringList :
    Reads readStringList fun t texts => t = .list (texts.map Tree.ofString) where
  sound := fun hok => by
    unfold readStringList at hok
    split at hok
    · cases hok
    · next hhead =>
        obtain ⟨b, p, hblanks, hspelled, rfl⟩ := readHead_sound hhead
        obtain ⟨q, hitems, rfl⟩ := readStrings_eq_ok_iff.mp hok
        cases hspelled with
        | openList =>
            refine ⟨b, '[' :: (q ++ [']']), _, hblanks,
              .list (bracketed_iff_remaining.mpr ⟨q, hitems, rfl⟩), rfl, ?_⟩
            simp only [List.append_assoc, List.cons_append, List.nil_append]
    · cases hok
  -- All strings of the list, and the bracket behind them, are what the reader takes off.
  complete := fun {b p rest t texts} hblanks hspelled hdenotes _ => by
    rw [hdenotes] at hspelled
    cases hspelled with
    | list hbetween =>
        obtain ⟨q, hitems, rfl⟩ := bracketed_iff_remaining.mp hbetween
        have hsplit : b ++ '[' :: (q ++ [']']) ++ rest = b ++ ['['] ++ (q ++ ']' :: rest) := by
          simp only [List.append_assoc, List.cons_append, List.nil_append]
        rw [hsplit, readStringList,
          readHead_complete hblanks .openList (fun n hsame => nomatch hsame)]
        exact readStrings_eq_ok_iff.mpr ⟨q, hitems, rfl⟩

end ClassifierBridge.Json
