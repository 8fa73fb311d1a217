import Mathlib.Data.List.Forall2
import Mathlib.Data.List.Nodup
import Qualifier.Proofs.Json.Members

/-!
# Records Written in Any Order

A record is written as an object whose members come in any order, some of them left out and others
among them that nobody asked for. What a document says is a relation here between a value and the
nodes that show it, with one relation for each kind of value and none of them taken from a decoder.

A decoder goes through the members as they are written. What it makes of one member does not depend
on the others, as long as no field comes twice (`ofObject_eq`), so every order ends the same: with
the fields that are there, or with a complaint about one of the members.

## Main definitions

* `Arranged`: The objects that hold certain fields and other members.
* `Recorded`: The same where the other members are plain ones under other names.
* `IsText`, `IsFlag`, `IsList`, `OrNull`, `OrAbsent`: The nodes that show a value.
* `Reads`: A decoder understands every node that shows a value.
* `Halts`: A reading that ends in one of certain errors.

## Theorems

* `ofObject_eq`: An object is read member by member.
* `Arranged.bind_ok`: Every field is found, in whatever order they are.
* `Arranged.bind_halts`: A member that is not accepted is what the reading ends with.
-/

namespace Qualifier

namespace Json

/-! ## Nodes that show a value -/

variable {α β : Type}

/-- The node that shows a text. -/
def IsText (s : String) (node : Node) : Prop :=
  node = .string ⟨s, true⟩

/-- The node that shows a truth value. -/
def IsFlag (b : Bool) (node : Node) : Prop :=
  node = .bool b

/-- The nodes that show a list: arrays of what shows its elements, in order. -/
def IsList (shows : α → Node → Prop) (xs : List α) (node : Node) : Prop :=
  ∃ items, List.Forall₂ shows xs items ∧ node = .array items true

/-- The nodes that show a value there may be none of. -/
def OrNull (shows : α → Node → Prop) : Option α → Node → Prop
  | none, node => node = .null
  | some a, node => shows a node

/-- The ways a value stands in a record: it may be left out if it is the default. -/
def OrAbsent (default : α) (shows : α → Node → Prop) (a : α) : Option Node → Prop
  | none => a = default
  | some node => shows a node

/-- A member as it stands in an object. -/
def member (m : String × Node) : Token × Node :=
  (⟨m.1, true⟩, m.2)

/-- The fields of a record that are there. -/
def present (fields : List (String × Option Node)) : Members :=
  fields.filterMap fun f => f.2.map fun node => (f.1, node)

/-- The objects that hold certain fields and other members, in any order. -/
def Arranged (fields : List (String × Option Node)) (others : Members) (node : Node) : Prop :=
  ∃ written : Members, written.Perm (present fields ++ others) ∧
    node = .object (written.map member) true

/-- The values a member may have that nobody asks for. -/
inductive IsPlain : Node → Prop
  | null : IsPlain .null
  | flag (b : Bool) : IsPlain (.bool b)
  | text (s : String) : IsPlain (.string ⟨s, true⟩)

/-- The objects that hold certain fields, and plain members under other names. -/
def Recorded (fields : List (String × Option Node)) (node : Node) : Prop :=
  ∃ others : Members, (∀ m ∈ others, m.1 ∉ fields.map Prod.fst ∧ IsPlain m.2) ∧
    Arranged fields others node

theorem IsPlain.isIntact {node : Node} (h : IsPlain node) : node.isIntact = true := by
  cases h <;> rfl

theorem Arranged.ne_null {fields : List (String × Option Node)} {others : Members} {node : Node}
    (h : Arranged fields others node) : node ≠ .null := by
  rcases h with ⟨written, -, rfl⟩
  simp

theorem Recorded.ne_null {fields : List (String × Option Node)} {node : Node}
    (h : Recorded fields node) : node ≠ .null := by
  rcases h with ⟨others, -, harranged⟩
  exact harranged.ne_null

/-! ## Finding members -/

namespace Members

theorem get?_eq_none_iff (ms : Members) (name : String) :
    ms.get? name = none ↔ name ∉ ms.map Prod.fst := by
  induction ms with
  | nil => simp [get?]
  | cons m ms ih =>
      rw [get?_cons, List.map_cons, List.mem_cons]
      by_cases hname : m.1 = name
      · simp [hname]
      · rw [if_neg hname, ih, or_iff_right (Ne.symm hname)]

/-- A name that stands once has the value it stands with. -/
theorem get?_eq_some_iff {ms : Members} (hnodup : (ms.map Prod.fst).Nodup) (name : String)
    (node : Node) : ms.get? name = some node ↔ (name, node) ∈ ms := by
  induction ms with
  | nil => simp [get?]
  | cons m ms ih =>
      rw [List.map_cons, List.nodup_cons] at hnodup
      rw [get?_cons, List.mem_cons]
      by_cases hname : m.1 = name
      · have habsent : (name, node) ∉ ms := fun hmem =>
          hnodup.1 (hname ▸ List.mem_map_of_mem hmem)
        rw [if_pos hname, Option.some.injEq]
        constructor
        · rintro rfl
          exact Or.inl (by rw [← hname])
        · rintro (heq | hmem)
          · rw [← heq]
          · exact absurd hmem habsent
      · have hne : (name, node) ≠ m := fun heq => hname (by rw [← heq])
        rw [if_neg hname, ih hnodup.2, or_iff_right hne]

/-- The order of members is of no account as long as no name stands twice. -/
theorem get?_perm {ms ms' : Members} (hperm : ms.Perm ms') (hnodup : (ms.map Prod.fst).Nodup)
    (name : String) : ms.get? name = ms'.get? name := by
  have hnodup' : (ms'.map Prod.fst).Nodup := (hperm.map Prod.fst).nodup_iff.mp hnodup
  ext node
  rw [get?_eq_some_iff hnodup, get?_eq_some_iff hnodup', hperm.mem_iff]

end Members

variable {fields : List (String × Option Node)}

theorem map_fst_present_sublist (fields : List (String × Option Node)) :
    ((present fields).map Prod.fst).Sublist (fields.map Prod.fst) := by
  induction fields with
  | nil => exact List.Sublist.slnil
  | cons f fields ih =>
      rcases f with ⟨name, _ | node⟩
      · exact ih.cons name
      · exact ih.cons_cons name

/-- A field that is there is found under its name, and nothing is under the name of one that is
    left out. -/
theorem get?_present (hnodup : (fields.map Prod.fst).Nodup) :
    ∀ f ∈ fields, (present fields).get? f.1 = f.2 := by
  have hpresent := hnodup.sublist (map_fst_present_sublist fields)
  intro f hf
  ext node
  rw [Members.get?_eq_some_iff hpresent, present, List.mem_filterMap]
  constructor
  · rintro ⟨g, hg, heq⟩
    obtain ⟨node', hnode', heq⟩ := Option.map_eq_some_iff.mp heq
    obtain ⟨hname, rfl⟩ := Prod.mk.inj heq
    obtain rfl : g = f := List.inj_on_of_nodup_map hnodup hg hf hname
    exact hnode'
  · intro hnode
    exact ⟨f, hf, by rw [hnode]; rfl⟩

/-! ## Reading -/

/-- A decoder understands every node that shows a value, and makes of it what a function does. -/
def Reads (d : Decoder β) (f : α → β) (shows : α → Node → Prop) : Prop :=
  ∀ a node, shows a node → d node = .ok (f a)

/-- A reading that ends in one of certain errors. -/
def Halts (complaint : ShapeError → Prop) (found : Except ShapeError α) : Prop :=
  ∃ e, complaint e ∧ found = .error e

variable {complaint : ShapeError → Prop}

theorem Halts.bind {found : Except ShapeError α} (h : Halts complaint found)
    (f : α → Except ShapeError β) : Halts complaint (found >>= f) := by
  rcases h with ⟨e, he, rfl⟩
  exact ⟨e, he, rfl⟩

theorem Halts.map {found : Except ShapeError α} (h : Halts complaint found) (f : α → β) :
    Halts complaint (found.map f) := by
  rcases h with ⟨e, he, rfl⟩
  exact ⟨e, he, rfl⟩

theorem mapM_eq_ok {f : α → Except ShapeError β} {xs : List α} {ys : List β}
    (h : List.Forall₂ (fun x y => f x = .ok y) xs ys) : xs.mapM f = .ok ys := by
  induction h with
  | nil => rfl
  | cons hx _ ih =>
      rw [List.mapM_cons, hx, ih]
      rfl

/-- The first element that is not accepted is what going through a list ends with. -/
theorem mapM_halts {f : α → Except ShapeError β} {xs : List α}
    (hall : ∀ x ∈ xs, (∃ y, f x = .ok y) ∨ Halts complaint (f x))
    (hsome : ∃ x ∈ xs, Halts complaint (f x)) : Halts complaint (xs.mapM f) := by
  induction xs with
  | nil => exact absurd hsome (by simp)
  | cons x xs ih =>
      rw [List.mapM_cons]
      rcases hall x List.mem_cons_self with ⟨y, hy⟩ | hx
      · rw [hy]
        refine (ih (fun x hx => hall x (List.mem_cons_of_mem _ hx)) ?_).bind _
        -- What was accepted is not what is complained about, so that is still to come.
        rcases hsome with ⟨x', hmem, hx'⟩
        rcases List.mem_cons.mp hmem with rfl | hmem
        · rcases hx' with ⟨e, -, he⟩
          exact absurd (hy.symm.trans he) (by simp)
        · exact ⟨x', hmem, hx'⟩
      · exact hx.bind _

theorem reads_string : Reads string id IsText := by
  rintro s node rfl
  rfl

theorem not_isText_null (s : String) : ¬ IsText s .null := by
  simp [IsText]

theorem reads_boolean : Reads boolean id IsFlag := by
  rintro b node rfl
  rfl

theorem Reads.list {d : Decoder β} {f : α → β} {shows : α → Node → Prop} (hd : Reads d f shows) :
    Reads (list d) (List.map f) (IsList shows) := by
  rintro xs node ⟨items, hitems, rfl⟩
  have hvalues : items.mapM d = .ok (xs.map f) :=
    mapM_eq_ok (List.forall₂_map_right_iff.mpr (hitems.flip.imp fun node x => hd x node))
  simp only [Json.list, hvalues]
  rfl

/-- A list is not read if one of its elements is not. -/
theorem list_halts {d : Decoder α} {items : List Node}
    (hall : ∀ node ∈ items, (∃ a, d node = .ok a) ∨ Halts complaint (d node))
    (hsome : ∃ node ∈ items, Halts complaint (d node)) :
    Halts complaint (list d (.array items true)) :=
  (mapM_halts hall hsome).bind _

theorem Reads.nullable {d : Decoder β} {f : α → β} {shows : α → Node → Prop}
    (hd : Reads d f shows) (hnull : ∀ a, ¬ shows a .null) :
    Reads (nullable d) (Option.map f) (OrNull shows) := by
  rintro (_ | a) node h
  · obtain rfl : node = .null := h
    rfl
  · have hvalue := hd a node h
    cases node with
    | null => exact absurd h (hnull a)
    | _ => simp only [Json.nullable, hvalue]; rfl

/-! ## Objects in any order -/

/-- What a record makes of one member, whatever the others are. -/
def Record.verdict (r : Record) (m : String × Node) : Except ShapeError Unit :=
  match r.fields.find? fun f => f.name == m.1 with
  | some field => field.check m.2
  | none =>
    if r.isStrict then .error (.unknownField m.1 (r.fields.map Field.name))
    else if m.2.isIntact then .ok ()
    else .error .syntactic

/-- Whether a member is one of the fields of a record. -/
def Record.knows (r : Record) (m : String × Node) : Bool :=
  (r.fields.find? fun f => f.name == m.1).isSome

variable {r : Record}

/-- A member that is not a field leaves no trace. -/
theorem ofObject_cons_unknown {m : String × Node} (hunknown : r.knows m = false)
    (seen : Members) (rest : List (Token × Node)) :
    r.ofObject true seen (member m :: rest) = r.verdict m >>= fun _ => r.ofObject true seen rest := by
  rw [Record.knows, Option.isSome_eq_false_iff, Option.isNone_iff_eq_none] at hunknown
  simp only [member, Record.ofObject, Record.verdict, hunknown]
  by_cases hstrict : r.isStrict
  · simp [hstrict]; rfl
  by_cases hintact : m.2.isIntact <;> simp [hstrict, hintact] <;> rfl

/-- A field that comes for the first time is kept. -/
theorem ofObject_cons_known {m : String × Node} (hknown : r.knows m = true) {seen : Members}
    (hnew : seen.get? m.1 = none) (rest : List (Token × Node)) :
    r.ofObject true seen (member m :: rest) =
      r.verdict m >>= fun _ => r.ofObject true (seen ++ [m]) rest := by
  obtain ⟨field, hfield⟩ := Option.isSome_iff_exists.mp hknown
  simp only [member, Record.ofObject, Record.verdict, hfield, hnew]
  cases field.check m.2 <;> rfl

/-- An object is read member by member, if no field comes twice. -/
theorem ofObject_eq (r : Record) (written seen : Members)
    (hnodup : ((seen ++ written.filter r.knows).map Prod.fst).Nodup) :
    r.ofObject true seen (written.map member) =
      (written.mapM r.verdict).map fun _ => seen ++ written.filter r.knows := by
  have hmap : ∀ (x : Except ShapeError Unit) (xs : Except ShapeError (List Unit)) (kept : Members),
      (x >>= fun _ => xs.map fun _ => kept) =
        (x >>= fun u => xs >>= fun us => pure (u :: us)).map fun _ => kept := by
    rintro (e | u) (e' | us) kept <;> rfl
  -- The fields that were seen grow along the list, so the induction is for any of them.
  induction written generalizing seen with
  | nil => simp [Record.ofObject]; rfl
  | cons m written ih =>
      rw [List.map_cons, List.mapM_cons]
      rcases hknows : r.knows m with _ | _
      · rw [List.filter_cons_of_neg (by simp [hknows])] at hnodup ⊢
        rw [ofObject_cons_unknown hknows, ih seen hnodup, hmap]
      · rw [List.filter_cons_of_pos hknows] at hnodup ⊢
        have hnew : Members.get? seen m.1 = none := by
          rw [Members.get?_eq_none_iff]
          intro hmem
          rw [List.map_append, List.map_cons] at hnodup
          exact (List.nodup_append.mp hnodup).2.2 _ hmem _ List.mem_cons_self rfl
        have hmoved : (seen ++ [m]) ++ written.filter r.knows = seen ++ m :: written.filter r.knows :=
          List.append_cons _ _ _ |>.symm
        rw [ofObject_cons_known hknows hnew, ih (seen ++ [m]) (hmoved ▸ hnodup), hmoved, hmap]

theorem knows_iff (r : Record) (m : String × Node) :
    r.knows m = true ↔ m.1 ∈ r.fields.map Field.name := by
  rw [Record.knows, List.find?_isSome, List.mem_map]
  simp only [beq_iff_eq]

theorem verdict_of_mem (hnodup : (r.fields.map Field.name).Nodup) {field : Field}
    (hfield : field ∈ r.fields) (node : Node) :
    r.verdict (field.name, node) = field.check node := by
  have hfind : (r.fields.find? fun f => f.name == field.name) = some field := by
    rw [List.find?_eq_some_iff_append]
    obtain ⟨before, after, hsplit⟩ := List.append_of_mem hfield
    refine ⟨by simp, before, after, hsplit, fun f hf => ?_⟩
    rw [hsplit, List.map_append, List.map_cons] at hnodup
    have hne : f.name ≠ field.name :=
      (List.nodup_append.mp hnodup).2.2 _ (List.mem_map_of_mem hf) _ List.mem_cons_self
    simpa using hne
  simp only [Record.verdict, hfind]

/-- A field as the record has it and as it is written: it is accepted if it is there, or
    complained about. -/
def Suits (complaint : ShapeError → Prop) (field : Field) (f : String × Option Node) : Prop :=
  field.name = f.1 ∧ ∀ node ∈ f.2, field.check node = .ok () ∨ Halts complaint (field.check node)

theorem map_name_of_suits {fs : List Field} (h : List.Forall₂ (Suits complaint) fs fields) :
    fs.map Field.name = fields.map Prod.fst := by
  induction h with
  | nil => rfl
  | cons hfield _ ih => rw [List.map_cons, List.map_cons, hfield.1, ih]

/-- What stands in the second of two lists in relation stands opposite something. -/
theorem exists_opposite {rel : α → β → Prop} {xs : List α} {ys : List β}
    (h : List.Forall₂ rel xs ys) : ∀ y ∈ ys, ∃ x ∈ xs, rel x y := by
  induction h with
  | nil => exact fun y hy => absurd hy List.not_mem_nil
  | @cons x y xs ys hxy _ ih =>
      intro y' hy'
      rcases List.mem_cons.mp hy' with rfl | hmem
      · exact ⟨x, List.mem_cons_self, hxy⟩
      · obtain ⟨x', hx', hrel⟩ := ih y' hmem
        exact ⟨x', List.mem_cons_of_mem _ hx', hrel⟩

/-- Every field that is written is accepted or complained about. -/
theorem verdict_present (hsuits : List.Forall₂ (Suits complaint) r.fields fields)
    (hnodup : (r.fields.map Field.name).Nodup) :
    ∀ m ∈ present fields, r.verdict m = .ok () ∨ Halts complaint (r.verdict m) := by
  intro m hm
  obtain ⟨f, hf, hpresent⟩ := List.mem_filterMap.mp hm
  obtain ⟨node, hnode, rfl⟩ := Option.map_eq_some_iff.mp hpresent
  obtain ⟨field, hfield, hname, hcheck⟩ := exists_opposite hsuits f hf
  rw [← hname, verdict_of_mem hnodup hfield]
  exact hcheck node hnode

/-- What a record makes of an object whose other members it does not know: the fields that are
    there, unless one of the members is complained about. -/
theorem Arranged.members_eq {others : Members} {node : Node} (h : Arranged fields others node)
    (hnames : r.fields.map Field.name = fields.map Prod.fst)
    (hnodup : (r.fields.map Field.name).Nodup)
    (hothers : ∀ m ∈ others, m.1 ∉ r.fields.map Field.name) :
    ∃ written kept : Members, written.Perm (present fields ++ others) ∧
      (∀ f ∈ fields, kept.get? f.1 = f.2) ∧
      r.members node = (written.mapM r.verdict).map fun _ => kept := by
  obtain ⟨written, hperm, rfl⟩ := h
  have hsublist := map_fst_present_sublist fields
  -- What is kept are the fields that are there, in the order in which they are written.
  have hkept : (written.filter r.knows).Perm (present fields) := by
    have hknown : (present fields).filter r.knows = present fields :=
      List.filter_eq_self.mpr fun m hm =>
        (knows_iff r m).mpr (hnames ▸ hsublist.subset (List.mem_map_of_mem hm))
    have hunknown : others.filter r.knows = [] :=
      List.filter_eq_nil_iff.mpr fun m hm hknows =>
        hothers m hm ((knows_iff r m).mp hknows)
    simpa only [List.filter_append, hknown, hunknown, List.append_nil] using hperm.filter r.knows
  rw [hnames] at hnodup
  have hdistinct : ((written.filter r.knows).map Prod.fst).Nodup :=
    (hkept.map Prod.fst).nodup_iff.mpr (hnodup.sublist hsublist)
  refine ⟨written, written.filter r.knows, hperm, fun f hf => ?_, ?_⟩
  · rw [Members.get?_perm hkept hdistinct, get?_present hnodup f hf]
  · exact ofObject_eq r written [] hdistinct

section Arranged

variable {node : Node} {others : Members} {g : Members → Except ShapeError α} {a : α}

/-- What is made of the fields that are there is made of the object, in whatever order its members
    are. -/
theorem Arranged.bind_ok (h : Arranged fields others node)
    (hsuits : List.Forall₂ (Suits fun _ => False) r.fields fields)
    (hnodup : (r.fields.map Field.name).Nodup)
    (hothers : ∀ m ∈ others, m.1 ∉ r.fields.map Field.name ∧ r.verdict m = .ok ())
    (hg : ∀ ms : Members, (∀ f ∈ fields, ms.get? f.1 = f.2) → g ms = .ok a) :
    (r.members node >>= g) = .ok a := by
  obtain ⟨written, kept, hperm, hkept, heq⟩ :=
    h.members_eq (map_name_of_suits hsuits) hnodup fun m hm => (hothers m hm).1
  have hverdict : ∀ m ∈ written, r.verdict m = .ok () := by
    intro m hm
    rcases List.mem_append.mp (hperm.subset hm) with hfield | hother
    · rcases verdict_present hsuits hnodup m hfield with hok | ⟨e, he, -⟩
      · exact hok
      · exact he.elim
    · exact (hothers m hother).2
  have hall : written.mapM r.verdict = .ok (written.map fun _ => ()) :=
    mapM_eq_ok (List.forall₂_map_right_iff.mpr (List.forall₂_same.mpr hverdict))
  rw [heq, hall]
  exact hg kept hkept

/-- A reading of an object ends in a complaint if each member is accepted or complained about, and
    there is one of the latter. -/
theorem Arranged.bind_halts (h : Arranged fields others node)
    (hsuits : List.Forall₂ (Suits complaint) r.fields fields)
    (hnodup : (r.fields.map Field.name).Nodup)
    (hothers : ∀ m ∈ others, m.1 ∉ r.fields.map Field.name ∧
      (r.verdict m = .ok () ∨ Halts complaint (r.verdict m)))
    (hsome : ∃ m ∈ present fields ++ others, Halts complaint (r.verdict m)) :
    Halts complaint (r.members node >>= g) := by
  obtain ⟨written, kept, hperm, -, heq⟩ :=
    h.members_eq (map_name_of_suits hsuits) hnodup fun m hm => (hothers m hm).1
  rw [heq]
  refine ((mapM_halts (fun m hm => ?_) ?_).map _).bind g
  · have hverdict : r.verdict m = .ok () ∨ Halts complaint (r.verdict m) := by
      rcases List.mem_append.mp (hperm.subset hm) with hfield | hother
      · exact verdict_present hsuits hnodup m hfield
      · exact (hothers m hother).2
    exact hverdict.imp_left fun hok => ⟨(), hok⟩
  · obtain ⟨m, hm, hhalts⟩ := hsome
    exact ⟨m, hperm.symm.subset hm, hhalts⟩

/-- What a record makes of a member it does not know. -/
theorem verdict_unknown {m : String × Node} (hname : m.1 ∉ r.fields.map Field.name) :
    r.verdict m =
      if r.isStrict then .error (.unknownField m.1 (r.fields.map Field.name))
      else if m.2.isIntact then .ok () else .error .syntactic := by
  have hunknown : r.knows m = false := by
    rw [← Bool.not_eq_true, knows_iff]
    exact hname
  rw [Record.knows, Option.isSome_eq_false_iff, Option.isNone_iff_eq_none] at hunknown
  rw [Record.verdict, hunknown]

/-- Plain members under other names are passed over, unless the record is strict. -/
theorem verdict_plain (hstrict : r.isStrict = false) {m : String × Node}
    (hname : m.1 ∉ r.fields.map Field.name) (hplain : IsPlain m.2) : r.verdict m = .ok () := by
  rw [verdict_unknown hname, hstrict, hplain.isIntact]
  rfl

theorem Recorded.bind_ok (h : Recorded fields node) (hstrict : r.isStrict = false)
    (hsuits : List.Forall₂ (Suits fun _ => False) r.fields fields)
    (hnodup : (r.fields.map Field.name).Nodup)
    (hg : ∀ ms : Members, (∀ f ∈ fields, ms.get? f.1 = f.2) → g ms = .ok a) :
    (r.members node >>= g) = .ok a := by
  obtain ⟨others, hothers, harranged⟩ := h
  rw [← map_name_of_suits hsuits] at hothers
  exact harranged.bind_ok hsuits hnodup (fun m hm => ⟨(hothers m hm).1,
    verdict_plain hstrict (hothers m hm).1 (hothers m hm).2⟩) hg

theorem Recorded.bind_halts (h : Recorded fields node) (hstrict : r.isStrict = false)
    (hsuits : List.Forall₂ (Suits complaint) r.fields fields)
    (hnodup : (r.fields.map Field.name).Nodup)
    (hsome : ∃ field ∈ r.fields, ∃ value, (field.name, some value) ∈ fields ∧
      Halts complaint (field.check value)) :
    Halts complaint (r.members node >>= g) := by
  obtain ⟨others, hothers, harranged⟩ := h
  obtain ⟨field, hfield, value, hvalue, hhalts⟩ := hsome
  have hpresent : (field.name, value) ∈ present fields :=
    List.mem_filterMap.mpr ⟨_, hvalue, rfl⟩
  rw [← verdict_of_mem hnodup hfield] at hhalts
  rw [← map_name_of_suits hsuits] at hothers
  exact harranged.bind_halts hsuits hnodup (fun m hm => ⟨(hothers m hm).1,
    Or.inl (verdict_plain hstrict (hothers m hm).1 (hothers m hm).2)⟩)
    ⟨_, List.mem_append_left _ hpresent, hhalts⟩

end Arranged

/-! ## Fields of a record -/

section Fields

variable {d : Decoder β} {f : α → β} {shows : α → Node → Prop} {name : String} {a default : α}

theorem Reads.suits (hd : Reads d f shows) {node : Node} (h : shows a node) :
    Suits complaint (.of name d) (name, some node) := by
  refine ⟨rfl, fun node' hnode => Or.inl ?_⟩
  obtain rfl : node = node' := Option.some.inj hnode
  simp only [Field.of, probe, hd a node h]
  rfl

theorem Reads.suits_default (hd : Reads d f shows) {value : Option Node}
    (h : OrAbsent default shows a value) : Suits complaint (.withDefault name d) (name, value) := by
  refine ⟨rfl, fun node hnode => Or.inl ?_⟩
  obtain rfl : value = some node := hnode
  simp only [Field.withDefault, probe, hd a node h]
  rfl

/-- A field that is not read is complained about. -/
theorem Halts.suits {node : Node} (h : Halts complaint (d node)) :
    Suits complaint (.of name d) (name, some node) := by
  refine ⟨rfl, fun node' hnode => Or.inr ?_⟩
  obtain rfl : node = node' := Option.some.inj hnode
  exact h.map _

theorem Reads.required (hd : Reads d f shows) {ms : Members} {node : Node}
    (hget : ms.get? name = some node) (h : shows a node) : ms.required name d = .ok (f a) := by
  rw [Members.required, hget]
  exact hd a node h

theorem Reads.getD (hd : Reads d f shows) {ms : Members} {value : Option Node}
    (hget : ms.get? name = value) (h : OrAbsent default shows a value) :
    ms.getD name d (f default) = .ok (f a) := by
  rw [Members.getD, hget]
  rcases value with _ | node
  · obtain rfl : a = default := h
    rfl
  · exact hd a node h

end Fields

end Json

end Qualifier
