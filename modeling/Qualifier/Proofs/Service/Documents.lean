import Qualifier.Identity.Setup
import Qualifier.Proofs.Outside.Moments
import Qualifier.Proofs.Service.Calls

/-!
# The Documents That Are Sent

Two requests put the caller's strings into a document: the first state of a shadow, and the
choice of the device to test. The strings may be anything. Each document is one text, and the
grammar of JSON gives it one meaning, in which every string is a name or a value as it was given
and all the rest is fixed. So no string can be told apart from another by half, and none adds a
member or changes one.

## Main definitions

* `Says`: A text with one meaning.
* `shadowNode`: The meaning of the first state of a shadow.

## Theorems

* `says_render`: A document that is written has one meaning.
* `sent_documents_say`: The documents that are sent, and what they mean.
-/

namespace Qualifier

namespace Json

/-- A text that says a document and no other, to the reader and by the grammar. -/
structure Says (text : String) (node : Node) : Prop where
  read : Json.read text = ⟨node, true⟩
  only : ∀ other : Node, other.WrittenAs text ↔ other = node

theorem says_render (v : Value) : Says v.render v.node where
  read := read_render v
  only other := by
    constructor
    · exact fun h => h.unique (writtenAs_render v)
    · rintro rfl
      exact writtenAs_render v

/-- Documents with one text have one meaning. -/
theorem node_eq_of_render_eq {v v' : Value} (h : v.render = v'.render) : v.node = v'.node :=
  ((says_render v').only v.node).mp (h ▸ writtenAs_render v)

end Json

open Json Program

/-- What the first state of a shadow says: one state, wanted and reported alike, in which one
    property has a value. -/
def shadowNode (property value : String) : Node :=
  let state : Node := .object [(⟨property, true⟩, .string ⟨value, true⟩)] true
  .object [(⟨"state", true⟩,
    .object [(⟨"desired", true⟩, state), (⟨"reported", true⟩, state)] true)] true

theorem shadowDocument_injective (property value property' value' : String) :
    (shadowDocument property value).render = (shadowDocument property' value').render ↔
      property = property' ∧ value = value' := by
  constructor
  · intro h
    have hnode := node_eq_of_render_eq h
    simp only [shadowDocument, Value.node, memberNodes, Node.object.injEq, List.cons.injEq,
      Prod.mk.injEq, Token.mk.injEq, Node.string.injEq, and_true, true_and] at hnode
    exact hnode.1
  · rintro ⟨rfl, rfl⟩
    rfl

theorem runConfiguration_injective (thingArn thingArn' : String) :
    (Client.runConfiguration thingArn).render = (Client.runConfiguration thingArn').render ↔
      thingArn = thingArn' := by
  constructor
  · intro h
    have hnode := node_eq_of_render_eq h
    simpa only [Client.runConfiguration, Value.node, memberNodes, Node.object.injEq,
      List.cons.injEq, Prod.mk.injEq, Token.mk.injEq, Node.string.injEq, and_true, true_and]
      using hnode
  · rintro rfl
    rfl

/-- What is sent when a shadow gets its first state, and when a suite run is started, whatever
    the strings are made of. The one request of the first is for a document that says just the
    property and the value. The one command of the second has the device in a document that says
    just its name. Different strings give different documents. -/
theorem sent_documents_say :
    (∀ thing property value : String, ∃ document,
      (∀ {σ : Type} (w : World σ) (s : σ), moments w (seedShadow thing property value) s =
        [⟨s, .service (.updateShadow thing document),
          (w (.service (.updateShadow thing document)) s).1⟩]) ∧
      Says document (shadowNode property value)) ∧
    (∀ (client : Client) (suiteId thingArn : String), ∃ document,
      (∀ {σ : Type} (wordings : Client.Wordings) (run : Runner σ) (s : σ) (log : List Command),
        (client.serviceIn wordings (Client.recording run) (.startSuiteRun suiteId thingArn)
            (s, log)).2.2 =
          log ++ [⟨client.program, ["iotdeviceadvisor", "start-suite-run",
            "--suite-definition-id", suiteId, "--suite-run-configuration", document,
            "--region", client.region, "--output", "json"]⟩]) ∧
      Says document (Client.deviceNode thingArn)) ∧
    (∀ property value property' value' : String,
      (shadowDocument property value).render = (shadowDocument property' value').render ↔
        property = property' ∧ value = value') ∧
    ∀ thingArn thingArn' : String,
      (Client.runConfiguration thingArn).render = (Client.runConfiguration thingArn').render ↔
        thingArn = thingArn' := by
  refine ⟨fun thing property value => ?_, fun client suiteId thingArn => ?_,
    shadowDocument_injective, runConfiguration_injective⟩
  · refine ⟨_, fun w s => ?_, says_render (shadowDocument property value)⟩
    rw [seedShadow, request, moments_bind, moments_question, run_question]
    split <;> rfl
  · refine ⟨_, fun wordings run s log => ?_, says_render (Client.runConfiguration thingArn)⟩
    rw [Client.serviceIn_eq]
    rfl

end Qualifier
