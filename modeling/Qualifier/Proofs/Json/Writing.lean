import Qualifier.Json.Writer
import Qualifier.Proofs.Json.Spelling

/-!
# Written Documents Read Back

A document that this library writes is one of the texts of the very document it was written
from, whatever its strings are made of: each character is written in one of the ways the grammar
knows, so none is lost in the escapes and none can break out of the string it stands in. As every
text of a document is read as that document, a text that is sent inside a document arrives as it
is.

## Main definitions

* `Value.node`: What a written document is read back as.

## Theorems

* `charSpelled_escapeChar`, `textSpelled_renderString`: How characters and strings are written.
* `spelled_chars`: How values are written.
* `writtenAs_render`: A written document is a text of that document.
* `read_render`: A written document reads back.
-/

namespace Qualifier

namespace Json

/-! ## Strings -/

/-- A control character without a letter of its own is written by its number. -/
theorem isUnit_control : ∀ n < 0x20,
    IsUnit ['0', '0', if n < 0x10 then '0' else '1', Nat.digitChar (n % 16)] n := by
  have hdigits : ∀ n < 0x20, IsHex (if n < 0x10 then '0' else '1') (n / 16) ∧
      IsHex (Nat.digitChar (n % 16)) (n % 16) := by
    unfold IsHex
    decide
  intro n hn
  have hzero : IsHex '0' 0 := Or.inl rfl
  rcases hdigits n hn with ⟨hhigh, hlow⟩
  exact ⟨_, _, _, _, 0, 0, n / 16, n % 16, rfl, hzero, hzero, hhigh, hlow, by omega⟩

/-- A character is written in one of the ways there are. -/
theorem charSpelled_escapeChar (c : Char) : CharSpelled c (escapeChar c) := by
  unfold escapeChar
  split
  case h_8 hquote hbackslash _ _ _ _ _ =>
    split
    · rename_i hcontrol
      exact .unit (isUnit_control _ hcontrol)
    · rename_i hcontrol
      exact .plain hquote hbackslash (Nat.not_lt.mp hcontrol)
  all_goals exact .letter (by decide)

theorem bodySpelled_flatMap (cs : List Char) : BodySpelled cs (cs.flatMap escapeChar) := by
  induction cs with
  | nil => exact .nil
  | cons c cs ih => exact .cons (charSpelled_escapeChar c) ih

theorem textSpelled_renderString (s : String) : TextSpelled s (renderString s) :=
  ⟨_, bodySpelled_flatMap s.toList, rfl⟩

/-! ## Values -/

mutual
/-- What a written document is read back as. -/
def Value.node : Value → Node
  | .bool b => .bool b
  | .string s => .string ⟨s, true⟩
  | .object members => .object (memberNodes members) true

/-- The same for the members of an object. -/
def memberNodes : List (String × Value) → List (Token × Node)
  | [] => []
  | m :: ms => (⟨m.1, true⟩, m.2.node) :: memberNodes ms
end

theorem memberNodes_append (ms ms' : List (String × Value)) :
    memberNodes (ms ++ ms') = memberNodes ms ++ memberNodes ms' := by
  induction ms with
  | nil => rfl
  | cons m ms ih => exact congrArg (_ :: ·) ih

theorem padded_self (cs : List Char) : Padded cs cs := by
  simpa only [List.nil_append, List.append_nil] using @Padded.mk cs [] [] blanks_nil blanks_nil

/-- A member may be written without blanks, by its name as it is written here. -/
theorem MembersSpelled.tight (name : String) {node : Node} {cs : List Char}
    (h : node.Spelled cs) : MembersSpelled [(⟨name, true⟩, node)] (renderString name ++ ':' :: cs) :=
  .last (textSpelled_renderString name) (padded_self _) h (padded_self _)

theorem MembersSpelled.tight_cons (name : String) {node : Node} {members : List (Token × Node)}
    {cs es : List Char} (h : node.Spelled cs) (hmembers : MembersSpelled members es) :
    MembersSpelled ((⟨name, true⟩, node) :: members)
      (renderString name ++ ':' :: (cs ++ ',' :: es)) :=
  .more (textSpelled_renderString name) (padded_self _) h (padded_self _) hmembers

mutual
/-- A value is written in one of the ways there are. -/
theorem spelled_chars (v : Value) : v.node.Spelled v.chars := by
  match v with
  | .bool true => exact .yes
  | .bool false => exact .no
  | .string s => exact .string (textSpelled_renderString s)
  | .object [] => exact .emptyObject blanks_nil
  | .object ((name, v) :: ms) =>
      have hmembers := membersSpelled_chars name v ms
      simpa only [Value.node, Value.chars, List.append_assoc, List.cons_append]
        using Node.Spelled.object hmembers
termination_by sizeOf v

/-- So are the members of an object. -/
theorem membersSpelled_chars (name : String) (v : Value) (ms : List (String × Value)) :
    MembersSpelled (memberNodes ((name, v) :: ms))
      (renderString name ++ ':' :: (v.chars ++ moreMembers ms)) := by
  have hvalue := spelled_chars v
  match ms with
  | [] =>
      rw [moreMembers, List.append_nil, memberNodes, memberNodes]
      exact .tight name hvalue
  | (other, v') :: ms =>
      have hmore := membersSpelled_chars other v' ms
      rw [moreMembers, memberNodes]
      simpa only [List.append_assoc, List.cons_append]
        using MembersSpelled.tight_cons name hvalue hmore
termination_by sizeOf v + sizeOf ms + 1
end

/-- A written document is a text of that document. -/
theorem writtenAs_render (v : Value) : v.node.WrittenAs v.render := by
  refine ⟨v.chars, spelled_chars v, ?_⟩
  rw [Value.render, String.toList_ofList]
  exact padded_self _

theorem read_render (v : Value) : read v.render = ⟨v.node, true⟩ :=
  (writtenAs_render v).read

end Json

end Qualifier
