import Qualifier.Json.Shape

/-!
# Records That Differ in One Value

What becomes of a record when the value of one of its members is another one. A reader goes
through the members in the order in which they are written, so up to that value it does the
same, and if the value does as well as the other one did, it does the same afterwards.

The members that were found can differ in nothing but this value.

## Main definitions

* `Members.DifferAt`: Members that differ in the value under one name.
* `SameBut`: Two readings of a record that differ in no more than that.

## Theorems

* `ofObject_append`: What holds from some member on holds of the whole object.
* `members_object_sameBut`, `members_array_sameBut`: A member that the record knows.
-/

namespace Qualifier

namespace Json

/-- Members of which those under one name may have two values, and the others are the same. -/
structure Members.DifferAt (name : String) (v v' : Node) (ms ms' : Members) : Prop where
  others : ∀ other, other ≠ name → ms'.get? other = ms.get? other
  value : ms'.get? name = ms.get? name ∨ ms.get? name = some v ∧ ms'.get? name = some v'

/-- Two readings of a record fail alike, or find members that differ in one value. -/
def SameBut (name : String) (v v' : Node) :
    Except ShapeError Members → Except ShapeError Members → Prop
  | .error e, .error e' => e' = e
  | .ok ms, .ok ms' => ms.DifferAt name v v' ms'
  | _, _ => False

variable {name : String} {v v' : Node} {ms ms' : Members}

/-- A reader goes on from both in the same way if it does so from the members. -/
theorem SameBut.bind_eq {α : Type} {found found' : Except ShapeError Members}
    (h : SameBut name v v' found found') {f : Members → Except ShapeError α}
    (hf : ∀ ms ms', ms.DifferAt name v v' ms' → f ms' = f ms) :
    (found' >>= f) = (found >>= f) := by
  rcases found with e | ms <;> rcases found' with e' | ms'
  · exact congrArg Except.error h
  · exact h.elim
  · exact h.elim
  · exact hf ms ms' h

namespace Members

theorem get?_concat (ms : Members) (m : String × Node) (name : String) :
    Members.get? (ms ++ [m]) name =
      (ms.get? name).or (if m.1 = name then some m.2 else none) := by
  unfold Members.get?
  rw [List.find?_append]
  by_cases hname : m.1 = name <;>
    rcases hfind : List.find? (fun m => m.1 == name) ms with _ | found <;> simp [hname, hfind]

theorem get?_cons (m : String × Node) (ms : Members) (name : String) :
    Members.get? (m :: ms) name = if m.1 = name then some m.2 else ms.get? name := by
  unfold Members.get?
  by_cases hname : m.1 = name <;> simp [hname]

theorem DifferAt.refl (name : String) (v v' : Node) (ms : Members) :
    ms.DifferAt name v v' ms :=
  ⟨fun _ _ => rfl, Or.inl rfl⟩

theorem DifferAt.isSome (h : ms.DifferAt name v v' ms') (other : String) :
    (ms'.get? other).isSome = (ms.get? other).isSome := by
  by_cases hother : other = name
  · rcases h.value with hsame | ⟨hget, hget'⟩
    · rw [hother, hsame]
    · rw [hother, hget, hget']
      rfl
  · rw [h.others other hother]

theorem DifferAt.required_of_ne (h : ms.DifferAt name v v' ms') {other : String}
    (hother : other ≠ name) {α : Type} (d : Decoder α) :
    ms'.required other d = ms.required other d := by
  unfold Members.required
  rw [h.others other hother]

/-- What is made of the value is the same if it is for both values. -/
theorem DifferAt.map_required (h : ms.DifferAt name v v' ms') {α β : Type} {d : Decoder α}
    {f : α → β} (hd : (d v').map f = (d v).map f) :
    (ms'.required name d).map f = (ms.required name d).map f := by
  unfold Members.required
  rcases h.value with hsame | ⟨hget, hget'⟩
  · rw [hsame]
  · rw [hget, hget']
    exact hd

theorem DifferAt.concat (h : ms.DifferAt name v v' ms') (m : String × Node) :
    Members.DifferAt name v v' (ms ++ [m]) (ms' ++ [m]) := by
  refine ⟨fun other hother => ?_, ?_⟩
  · rw [get?_concat, get?_concat, h.others other hother]
  · rw [get?_concat, get?_concat]
    rcases h.value with hsame | ⟨hget, hget'⟩
    · exact Or.inl (by rw [hsame])
    · exact Or.inr ⟨by rw [hget]; rfl, by rw [hget']; rfl⟩

theorem DifferAt.cons (h : ms.DifferAt name v v' ms') (m : String × Node) :
    Members.DifferAt name v v' (m :: ms) (m :: ms') := by
  refine ⟨fun other hother => ?_, ?_⟩
  · rw [get?_cons, get?_cons, h.others other hother]
  · rw [get?_cons, get?_cons]
    by_cases hname : m.1 = name
    · exact Or.inl (by rw [if_pos hname, if_pos hname])
    · rw [if_neg hname, if_neg hname]
      exact h.value

end Members

/-! ## Objects -/

variable {r : Record}

/-- What holds of two readings from some member on, whatever was seen before, holds of the
    readings of the whole. -/
theorem ofObject_append {rel : Except ShapeError Members → Except ShapeError Members → Prop}
    (herror : ∀ e, rel (.error e) (.error e)) {closed : Bool} {rest rest' : List (Token × Node)}
    (h : ∀ seen, rel (r.ofObject closed seen rest) (r.ofObject closed seen rest'))
    (before : List (Token × Node)) (seen : Members) :
    rel (r.ofObject closed seen (before ++ rest)) (r.ofObject closed seen (before ++ rest')) := by
  induction before generalizing seen with
  | nil => exact h seen
  | cons m before ih =>
      rcases m with ⟨key, value⟩
      simp only [List.cons_append, Record.ofObject]
      split
      · exact herror _
      split
      · split
        · exact herror _
        split
        · exact herror _
        · exact ih _
      · split
        · exact herror _
        split
        · exact ih _
        · exact herror _

/-- After members that differ in one value the same is done with the rest. -/
theorem ofObject_sameBut (closed : Bool) (rest : List (Token × Node)) {seen seen' : Members}
    (h : seen.DifferAt name v v' seen') :
    SameBut name v v' (r.ofObject closed seen rest) (r.ofObject closed seen' rest) := by
  induction rest generalizing seen seen' with
  | nil =>
      unfold Record.ofObject
      cases closed
      · rfl
      · exact h
  | cons m rest ih =>
      rcases m with ⟨key, value⟩
      simp only [Record.ofObject, h.isSome]
      split
      · rfl
      split
      · split
        · rfl
        split
        · rfl
        · exact ih (h.concat _)
      · split
        · rfl
        split
        · exact ih h
        · rfl

/-- A member that the record knows: if its value does as well as another one, no more than that
    value is different. -/
theorem members_object_sameBut {key : Token}
    (hcheck : ∀ field ∈ r.fields, field.name = key.text → field.check v' = field.check v)
    (hintact : v'.isIntact = v.isIntact) (before after : List (Token × Node)) (closed : Bool) :
    SameBut key.text v v' (r.members (.object (before ++ (key, v) :: after) closed))
      (r.members (.object (before ++ (key, v') :: after) closed)) := by
  have herror : ∀ e, SameBut key.text v v' (.error e) (.error e) := fun _ => rfl
  refine ofObject_append herror (fun seen => ?_) before []
  simp only [Record.ofObject, hintact]
  split
  · rfl
  split
  next field hfield =>
    have hname : field.name = key.text := by simpa using List.find?_some hfield
    rw [hcheck field (List.mem_of_find?_eq_some hfield) hname]
    split
    · rfl
    next hnew =>
    split
    · rfl
    -- It is the first one under its name.
    · refine ofObject_sameBut closed after ⟨fun other hother => ?_, Or.inr ?_⟩
      · rw [Members.get?_concat, Members.get?_concat, if_neg hother.symm, if_neg hother.symm]
      · rw [Members.get?_concat, Members.get?_concat, if_pos rfl, if_pos rfl]
        rw [Bool.not_eq_true, Option.isSome_eq_false_iff, Option.isNone_iff_eq_none] at hnew
        rw [hnew]
        exact ⟨rfl, rfl⟩
  · split
    · rfl
    split
    · exact ofObject_sameBut closed after (Members.DifferAt.refl _ _ _ _)
    · rfl

/-! ## Arrays -/

/-- An item that stands for a field: if it does as well as another one, no more than the value
    of the field is different. -/
theorem ofArray_sameBut (closed : Bool) (index : Nat) (fields : List Field)
    (before after : List Node) {field : Field} (hfield : fields[before.length]? = some field)
    (hcheck : field.check v' = field.check v) :
    SameBut field.name v v' (r.ofArray closed index fields (before ++ v :: after))
      (r.ofArray closed index fields (before ++ v' :: after)) := by
  induction before generalizing index fields with
  | nil =>
      cases fields with
      | nil => exact absurd hfield (by simp)
      | cons first fields =>
          obtain rfl : first = field := Option.some.inj hfield
          simp only [List.nil_append, Record.ofArray, hcheck]
          split
          · rfl
          split
          · rfl
          · refine ⟨fun other hother => ?_, Or.inr ?_⟩
            · rw [Members.get?_cons, Members.get?_cons, if_neg hother.symm, if_neg hother.symm]
            · rw [Members.get?_cons, Members.get?_cons, if_pos rfl, if_pos rfl]
              exact ⟨rfl, rfl⟩
  | cons item before ih =>
      cases fields with
      | nil => exact absurd hfield (by simp)
      | cons first fields =>
          simp only [List.cons_append, Record.ofArray]
          split
          · rfl
          have hrest := ih (index + 1) fields (by simpa using hfield)
          rcases hleft : r.ofArray closed (index + 1) fields (before ++ v :: after) with e | ms <;>
            rcases hright : r.ofArray closed (index + 1) fields (before ++ v' :: after) with
              e' | ms' <;> rw [hleft, hright] at hrest
          · exact hrest
          · exact hrest
          · exact hrest
          · exact Members.DifferAt.cons hrest _

theorem members_array_sameBut (before after : List Node) (closed : Bool) (field : Field)
    (hfield : r.fields[before.length]? = some field) (hcheck : field.check v' = field.check v) :
    SameBut field.name v v' (r.members (.array (before ++ v :: after) closed))
      (r.members (.array (before ++ v' :: after) closed)) :=
  ofArray_sameBut closed 0 r.fields before after hfield hcheck

end Json

end Qualifier
