import ClassifierBridge.Proofs.Json.Unambiguous
import ClassifierBridge.Proofs.Settings.Threshold

/-!
# `ClassifierBridge.Proofs.Settings.ListForm`: a list stands for an object

A host form may be a list of the fields' values in their order. Such a list is
read as the object that has these values under the fields' keys
(`Field.keyed`): `Tree.members?` gives the members of either spelling, and
`HostForm.reads` says that a form is read exactly from the trees whose members
have the host shape. A text spells one tree, so whether it is accepted and what
it is read as depends on that tree alone (`Settings.ofJson_eq_ok_iff_of_document`),
and a list and its object are read alike (`Settings.ofJson_list`).
-/

set_option autoImplicit false

namespace ClassifierBridge

open Json

/-- The members that give values to fields in the order of both. -/
def Field.keyed (fields : List Field) (items : List Tree) : List (List Char × Tree) :=
  (fields.map fun field => field.key.toList).zip items

/-- The members of a host form: those of an object, or those that a list stands
for unless it is longer than there are fields. -/
def Json.Tree.members? : Tree → Option (List (List Char × Tree))
  | .object members => some members
  | .list items =>
      if items.length ≤ Field.inOrder.length then some (Field.keyed Field.inOrder items) else none
  | _ => none

/-- A tree denotes a form if its members have the host shape. -/
def DenotesForm (t : Tree) (form : HostForm) : Prop :=
  ∃ members, t.members? = some members ∧ HostShape members form

/-! ### Elements -/

/-- The first element takes the first field, and the others fill what that leaves. -/
theorem fills_keyed_cons {field : Field} {fields : List Field} (hnodup : (field :: fields).Nodup)
    {start form : HostForm} {t : Tree} {items : List Tree} :
    Fills (field :: fields) start (Field.keyed (field :: fields) (t :: items)) form
      ↔ ∃ v, field.Denotes t v
          ∧ Fills fields (start.set field v) (Field.keyed fields items) form := by
  have hfirst : Field.keyed (field :: fields) (t :: items)
      = (field.key.toList, t) :: Field.keyed fields items := rfl
  rw [hfirst, fills_cons hnodup]
  constructor
  · rintro ⟨field', -, hnames, v, hdenotes, hfills⟩
    obtain rfl : field' = field := Field.names_unique hnames (.inl rfl)
    rw [List.erase_cons_head] at hfills
    exact ⟨v, hdenotes, hfills⟩
  · rintro ⟨v, hdenotes, hfills⟩
    refine ⟨field, List.mem_cons_self, .inl rfl, v, hdenotes, ?_⟩
    rw [List.erase_cons_head]
    exact hfills

namespace HostForm

/-- Where no more elements are expected, only the closing bracket is read. -/
theorem closeList_eq_ok_iff {s rest : List Char} :
    closeList s = .ok rest ↔ ∃ b, Blanks b ∧ s = b ++ ']' :: rest := by
  constructor
  · intro hok
    unfold closeList at hok
    split at hok
    · cases hok
    · next c tail hstart =>
        obtain ⟨b, hblanks, rfl⟩ := exists_blanks_of_skipBlank hstart
        split at hok
        · next hbracket =>
            cases hok
            exact ⟨b, hblanks, by rw [hbracket]⟩
        · -- A comma and anything else are refused.
          dsimp only at hok
          repeat' split at hok
          all_goals cases hok
  · rintro ⟨b, hblanks, rfl⟩
    rw [closeList, skipBlank_append hblanks, skipBlank_cons (by decide)]
    rfl

/-- The elements of a list are read exactly where at most as many values as
fields and the closing bracket come next, and they fill the fields in order. -/
theorem readElements_eq_ok_iff {fields : List Field} (hnodup : fields.Nodup) {first : Bool}
    {start form : HostForm} {s rest : List Char} :
    readElements fields first start s = .ok (form, rest)
      ↔ ∃ p items, Remaining Spelling first p items ∧ items.length ≤ fields.length
          ∧ Fills fields start (Field.keyed fields items) form ∧ s = p ++ ']' :: rest := by
  -- By induction on the fields that are still to be filled: each takes the next element.
  induction fields generalizing first start s with
  | nil =>
      rw [readElements]
      constructor
      · intro hok
        obtain ⟨after, hclosed, hsame⟩ := exists_of_map_eq_ok hok
        cases hsame
        obtain ⟨b, hblanks, rfl⟩ := closeList_eq_ok_iff.mp hclosed
        exact ⟨b, [], .nil hblanks, Nat.zero_le _, fills_nil.mpr rfl, rfl⟩
      · rintro ⟨p, items, hremaining, hfew, hfills, rfl⟩
        obtain rfl := List.eq_nil_of_length_eq_zero (Nat.le_zero.mp hfew)
        cases hremaining with
        | nil hblanks =>
            rw [closeList_eq_ok_iff.mpr ⟨p, hblanks, rfl⟩, fills_nil.mp hfills]
            rfl
  | cons field fields ih =>
      have hothers := (List.nodup_cons.mp hnodup).2
      constructor
      · intro hok
        rw [readElements] at hok
        split at hok
        · cases hok
        · next after hclose =>
            cases hok
            obtain ⟨b, hblanks, rfl⟩ := nextElement_eq_close_iff.mp hclose
            exact ⟨b, [], .nil hblanks, Nat.zero_le _, fills_nil.mpr rfl, rfl⟩
        · next item hnext =>
            split at hok
            · cases hok
            · next form' after hread =>
                obtain ⟨gap, hbefore, rfl⟩ := nextElement_eq_item_sound hnext
                obtain ⟨b, p, t, hblanks, hspelled, ⟨v, hdenotes, rfl⟩, rfl⟩ :=
                  (reads_field start field).sound hread
                obtain ⟨q, items, hremaining, hfew, hfills, rfl⟩ := (ih hothers).mp hok
                refine ⟨gap ++ b ++ p ++ q, t :: items, .cons (hbefore.append hblanks) hspelled
                  hremaining, Nat.succ_le_succ hfew, ?_, ?_⟩
                · exact (fills_keyed_cons hnodup).mpr ⟨v, hdenotes, hfills⟩
                · simp only [List.append_assoc]
      · rintro ⟨p, items, hremaining, hfew, hfills, rfl⟩
        rw [readElements]
        cases hremaining with
        | nil hblanks =>
            rw [nextElement_eq_close_iff.mpr ⟨p, hblanks, rfl⟩, fills_nil.mp hfills]
        | @cons _ gap s q t items hbefore hspelled hremaining =>
            obtain ⟨v, hdenotes, hfills⟩ := (fills_keyed_cons hnodup).mp hfills
            obtain ⟨c, tail, rfl, hvisible, hbetween⟩ := visible_spelling hspelled
            have hnotClosing : c ≠ ']' := by
              rintro rfl
              exact hbetween (by decide)
            have hends : EndsLiteral (q ++ ']' :: rest) := hremaining.endsLiteral (by decide) rest
            have hread := (reads_field start field).complete blanks_nil hspelled ⟨v, hdenotes, rfl⟩
              hends
            simp only [List.append_assoc, List.cons_append, List.nil_append] at hread ⊢
            rw [nextElement_item hbefore hvisible hnotClosing]
            simp only [hread]
            exact (ih hothers).mpr ⟨q, items, hremaining, Nat.le_of_succ_le_succ hfew, hfills, rfl⟩

/-! ### Documents -/

/-- A list that stands next is read exactly if the members that it stands for
have the host shape. -/
theorem read_eq_ok_iff_of_list {b tail : List Char} (hblanks : Blanks b) {form : HostForm}
    {rest : List Char} :
    read (b ++ '[' :: tail) = .ok (form, rest)
      ↔ ∃ p items, Spelling p (.list items) ∧ items.length ≤ Field.inOrder.length
          ∧ HostShape (Field.keyed Field.inOrder items) form ∧ '[' :: tail = p ++ rest := by
  -- The bracket is the head of the text, and from there on the elements are read.
  have hhead : readHead (b ++ ['['] ++ tail) = .ok (.openList, tail) :=
    readHead_complete hblanks .openList (fun n hsame => nomatch hsame)
  rw [List.append_assoc, List.cons_append, List.nil_append] at hhead
  rw [read, hhead]
  dsimp only
  rw [readElements_eq_ok_iff Field.nodup_inOrder]
  constructor
  · rintro ⟨p, items, hremaining, hfew, hfills, rfl⟩
    refine ⟨'[' :: (p ++ [']']), items, .list (bracketed_iff_remaining.mpr ⟨p, hremaining, rfl⟩),
      hfew, hfills, ?_⟩
    simp only [List.append_assoc, List.cons_append, List.nil_append]
  · rintro ⟨p, items, hspelled, hfew, hfills, hsame⟩
    cases hspelled with
    | list hbetween =>
        obtain ⟨q, hremaining, rfl⟩ := bracketed_iff_remaining.mp hbetween
        refine ⟨q, items, hremaining, hfew, hfills, ?_⟩
        simp only [List.append_assoc, List.cons_append, List.nil_append, List.cons.injEq,
          true_and] at hsame
        exact hsame

/-- The two spellings of a host form and nothing else are read. -/
theorem reads : Reads read DenotesForm where
  sound := fun {s rest form} hok => by
    by_cases hlist : ∃ b tail, Blanks b ∧ s = b ++ '[' :: tail
    · obtain ⟨b, tail, hblanks, rfl⟩ := hlist
      obtain ⟨p, items, hspelled, hfew, hshape, hsame⟩ := (read_eq_ok_iff_of_list hblanks).mp hok
      refine ⟨b, p, .list items, hblanks, hspelled, ⟨_, if_pos hfew, hshape⟩, ?_⟩
      rw [hsame, List.append_assoc]
    · obtain ⟨b, p, members, hblanks, hspelled, hshape, hsame⟩ := (read_eq_ok_iff_of_object
        fun b tail hblanks hsame => hlist ⟨b, tail, hblanks, hsame⟩).mp hok
      exact ⟨b, p, .object members, hblanks, hspelled, ⟨members, rfl, hshape⟩, hsame⟩
  complete := fun {b p rest t form} hblanks hspelled hdenotes hends => by
    obtain ⟨members, hgiven, hshape⟩ := hdenotes
    cases t with
    | object members' =>
        cases hgiven
        refine (read_eq_ok_iff_of_object fun b' tail hblanks' hsame => ?_).mpr
          ⟨b, p, _, hblanks, hspelled, hshape, rfl⟩
        -- The brace is no bracket.
        cases hspelled with
        | object hbetween =>
            obtain ⟨q, -, rfl⟩ := bracketed_iff_remaining.mp hbetween
            simp only [List.append_assoc, List.cons_append] at hsame
            cases (eq_of_blanks_append hblanks hblanks' (by decide) (by decide) hsame).1
    | list items =>
        rw [Tree.members?] at hgiven
        split at hgiven
        · next hfew =>
            cases hgiven
            have hstart : ∃ tail, p = '[' :: tail := by
              cases hspelled with
              | list hbetween =>
                  obtain ⟨q, -, rfl⟩ := bracketed_iff_remaining.mp hbetween
                  exact ⟨_, rfl⟩
            obtain ⟨tail, rfl⟩ := hstart
            rw [List.append_assoc, List.cons_append]
            exact (read_eq_ok_iff_of_list hblanks).mpr ⟨_, items, hspelled, hfew, hshape, rfl⟩
        · cases hgiven
    | _ => cases hgiven

end HostForm

namespace Settings

/-- A text that spells a tree is accepted exactly if the tree denotes a form that
stands for settings, and these are the settings. -/
theorem ofJson_eq_ok_iff_of_document {text : String} {t : Tree} (hdocument : Document text.toList t)
    {o : Settings} :
    ofJson text = .ok o ↔ ∃ form, DenotesForm t form ∧ form.settings? = some o := by
  rw [ofJson_eq_ok_iff_read]
  constructor
  · rintro ⟨form, rest, hread, hsettings, htrailing⟩
    obtain ⟨b, p, t', hleading, hspelled, hdenotes, hsame⟩ := HostForm.reads.sound hread
    -- The text spells one tree, so what was read is the tree that it was given for.
    have hdocument' : Document text.toList t' := by
      rw [hsame]
      exact .mk hleading hspelled htrailing
    rw [hdocument.unique hdocument']
    exact ⟨form, hdenotes, hsettings⟩
  · rintro ⟨form, hdenotes, hsettings⟩
    generalize text.toList = s at hdocument
    cases hdocument with
    | mk hleading hspelled htrailing =>
        exact ⟨form, _, HostForm.reads.complete hleading hspelled hdenotes htrailing.endsLiteral,
          hsettings, htrailing⟩

/-- What is accepted is a document. -/
theorem exists_document_of_ofJson {text : String} {o : Settings} (haccepted : ofJson text = .ok o) :
    ∃ t, Document text.toList t := by
  obtain ⟨form, rest, hread, -, htrailing⟩ := ofJson_eq_ok_iff_read.mp haccepted
  obtain ⟨b, p, t, hleading, hspelled, -, hsame⟩ := HostForm.reads.sound hread
  rw [hsame]
  exact ⟨t, .mk hleading hspelled htrailing⟩

/-- A list of values is read as the object that gives them, in order, to the
first of the fields, whatever blanks and escapes either is written with; a list
of more values than fields is refused. -/
theorem ofJson_list (items : List Tree) (list : String)
    (hspelled : Document list.toList (.list items)) :
    (items.length ≤ 6 → ∀ object : String,
        Document object.toList (.object (Field.keyed Field.inOrder items)) →
        ∀ o, ofJson list = .ok o ↔ ofJson object = .ok o)
      ∧ (6 < items.length → ∃ e, ofJson list = .error e) := by
  have haccepted := fun o => ofJson_eq_ok_iff_of_document hspelled (o := o)
  refine ⟨fun hfew object hspelled' o => ?_, fun hmany => ?_⟩
  · -- Both trees have the same members, and only these decide.
    have hsame : (Tree.list items).members?
        = (Tree.object (Field.keyed Field.inOrder items)).members? := if_pos hfew
    rw [haccepted, ofJson_eq_ok_iff_of_document hspelled']
    unfold DenotesForm
    rw [hsame]
  · have hnone : (Tree.list items).members? = none := if_neg (Nat.not_le_of_lt hmany)
    cases hresult : ofJson list with
    | error e => exact ⟨e, rfl⟩
    | ok o =>
        obtain ⟨form, ⟨members, hgiven, -⟩, -⟩ := (haccepted o).mp hresult
        rw [hnone] at hgiven
        cases hgiven

/-- A list with all six values and blanks around it, and a list that is too long. -/
theorem ofJson_list_six :
    ofJson "\n[\"fr\",7,true,0.5,[\"cat\"],[]] "
        = .ok ⟨"fr", 7, some (Binary.ofBits 0x3f000000), ["cat"], []⟩
      ∧ ∃ e, ofJson "[null,null,null,null,null,null,null]" = .error e := by
  have hspace : Blanks [' '] := forall_mem_of_all (by decide)
  have hnewline : Blanks ['\n'] := forall_mem_of_all (by decide)
  let half : Single := Binary.ofBits 0x3f000000
  let form : HostForm := ⟨"fr", 7, true, some half, ["cat"], []⟩
  constructor
  · -- The values of the object that is written for the form, each with its text.
    let items : List (List Char × Tree) :=
      [(writeString "fr", .ofString "fr"), (writeInteger 7, .number (integerLiteral 7)),
        (writeBool true, .bool true), (writeSingle half, .ofSingle half),
        (writeStrings ["cat"], .list [.ofString "cat"]), (writeStrings [], .list [])]
    have hspelled : ∀ item ∈ items, Spelling item.1 item.2 := by
      simp only [items, List.forall_mem_cons]
      exact ⟨spelling_writeString _, spelling_writeInteger _, spelling_writeBool _,
        spelling_ofSingle _, spelling_writeStrings ["cat"], spelling_writeStrings [], nofun⟩
    have hlist := Document.mk hnewline (.list (bracketed_of_items '[' ']' items hspelled)) hspace
    have htext : ['\n'] ++ '[' :: (separated (items.map Prod.fst) ++ [']']) ++ [' ']
        = "\n[\"fr\",7,true,0.5,[\"cat\"],[]] ".toList := by decide +kernel
    rw [htext] at hlist
    have hobject := form.spelling_toJson.document
    refine ((ofJson_list (items.map Prod.snd) _ hlist).1 (by decide) form.toJson hobject _).mpr ?_
    have hwritten : form.DenotesThreshold (some half) := denotes_ofSingle (by decide)
    exact (ofJson_eq_ok_iff_of_document hobject).mpr
      ⟨form, ⟨_, rfl, HostForm.hostShape_writtenMembers hwritten⟩, rfl⟩
  · have hlist := (Spelling.list (bracketed_of_items '[' ']'
      (List.replicate 7 ("null".toList, Tree.null)) fun item hmem => by
        rw [List.eq_of_mem_replicate hmem]
        exact .null)).document
    exact (ofJson_list _ "[null,null,null,null,null,null,null]" hlist).2 (by decide)

end Settings

end ClassifierBridge
