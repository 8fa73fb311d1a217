import Qualifier.Proofs.Json.Members
import Qualifier.Proofs.Outside.Veiled
import Qualifier.Service.Client

/-!
# Private Keys in the Output of a Client

The command-line client prints the private key of a certificate as a string in the document in
which the certificate comes. Scripts are compared that differ in such strings and in nothing
else: what is printed for any other request is the same.

So a client that is run by either script is the same service up to private keys. If a document
is no certificate, what is wrong with it is the same, too. It is only told in other words if
these name a place in the document, as a longer key shifts all that comes after it.

## Main definitions

* `Rekeyed`: Documents that differ in a private key.
* `Script.Answering`, `Script.Comparable`: Scripts with such documents in the outputs that answer
  a request for a certificate.

## Theorems

* `Rekeyed.certificate`: The certificates that are read differ in their keys.
* `mirrors_rekeyed`: The client is the same service up to private keys.
-/

namespace Qualifier

open Json

namespace Response

/-- The members of a key pair. -/
def keyPairShape : Record :=
  ⟨"struct KeyPair", [.of "PrivateKey" string], false⟩

/-- The members of a certificate. -/
def certificateShape : Record :=
  ⟨"struct CreateCertificateResponse",
    [.of "certificateArn" string, .of "certificateId" string, .of "certificatePem" string,
      .of "keyPair" privateKey], false⟩

theorem privateKey_eq (node : Node) :
    privateKey node =
      keyPairShape.members node >>= fun ms => ms.required "PrivateKey" string :=
  rfl

/-- What is made of the members of a certificate. -/
def certificateOf (ms : Members) : Except ShapeError Certificate := do
  return ⟨← ms.required "certificateArn" string, ← ms.required "certificateId" string,
    ← ms.required "certificatePem" string, ← ms.required "keyPair" privateKey⟩

theorem certificate_eq (node : Node) :
    certificate node = certificateShape.members node >>= certificateOf :=
  rfl

/-- Two key pairs with different private keys. -/
inductive RekeyedPair : Node → Node → Prop
  | object (before after : List (Token × Node)) (closed : Bool) {name t t' : Token}
      (hname : name.text = "PrivateKey") (ht : t'.paired = t.paired) :
      RekeyedPair (.object (before ++ (name, .string t) :: after) closed)
        (.object (before ++ (name, .string t') :: after) closed)
  | array (after : List Node) (closed : Bool) {t t' : Token} (ht : t'.paired = t.paired) :
      RekeyedPair (.array (.string t :: after) closed) (.array (.string t' :: after) closed)

/-- Two documents that are the same or differ in the private key of a certificate. -/
inductive Rekeyed : Node → Node → Prop
  | same (node : Node) : Rekeyed node node
  | object (before after : List (Token × Node)) (closed : Bool) {name : Token}
      {pair pair' : Node} (hname : name.text = "keyPair") (h : RekeyedPair pair pair') :
      Rekeyed (.object (before ++ (name, pair) :: after) closed)
        (.object (before ++ (name, pair') :: after) closed)
  | array (arn id pem : Node) (after : List Node) (closed : Bool) {pair pair' : Node}
      (h : RekeyedPair pair pair') :
      Rekeyed (.array (arn :: id :: pem :: pair :: after) closed)
        (.array (arn :: id :: pem :: pair' :: after) closed)

/-! ## The certificate -/

theorem membersIntact_append (ms ms' : List (Token × Node)) :
    membersIntact (ms ++ ms') = (membersIntact ms && membersIntact ms') := by
  induction ms with
  | nil => rfl
  | cons m ms ih => rw [List.cons_append, membersIntact, membersIntact, ih, Bool.and_assoc]

theorem RekeyedPair.isIntact {pair pair' : Node} (h : RekeyedPair pair pair') :
    pair'.isIntact = pair.isIntact := by
  cases h with
  | object before after closed hname ht =>
      simp only [Node.isIntact, membersIntact_append, membersIntact]
  | array after closed ht => simp only [Node.isIntact, itemsIntact]

theorem map_string {t t' : Token} (ht : t'.paired = t.paired) {α : Type} (a : α) :
    (string (.string t')).map (fun _ => a) = (string (.string t)).map (fun _ => a) := by
  simp only [string, stringAs, ht]
  split <;> rfl

theorem map_bind_except {ε α β γ : Type} (x : Except ε α) (f : α → Except ε β) (g : β → γ) :
    (x >>= f).map g = x >>= fun a => (f a).map g := by
  cases x <;> rfl

/-- Another private key is read as well as the first. -/
theorem RekeyedPair.privateKey {pair pair' : Node} (h : RekeyedPair pair pair') {α : Type}
    (a : α) : (Response.privateKey pair').map (fun _ => a)
      = (Response.privateKey pair).map (fun _ => a) := by
  rw [privateKey_eq, privateKey_eq, map_bind_except, map_bind_except]
  cases h with
  | @object before after closed name t t' hname ht =>
      have hmembers : SameBut name.text (.string t) (.string t')
          (keyPairShape.members (.object (before ++ (name, .string t) :: after) closed))
          (keyPairShape.members (.object (before ++ (name, .string t') :: after) closed)) := by
        have hintact : (Node.string t').isIntact = (Node.string t).isIntact := by
          simp only [Node.isIntact]
        refine members_object_sameBut (fun field hfield _ => ?_) hintact before after closed
        obtain rfl := List.mem_singleton.mp hfield
        exact map_string ht ()
      rw [hname] at hmembers
      exact hmembers.bind_eq fun ms ms' hms => hms.map_required (map_string ht a)
  | @array after closed t t' ht =>
      have hmembers : SameBut "PrivateKey" (.string t) (.string t')
          (keyPairShape.members (.array (.string t :: after) closed))
          (keyPairShape.members (.array (.string t' :: after) closed)) :=
        members_array_sameBut [] after closed (.of "PrivateKey" string) rfl (map_string ht ())
      exact hmembers.bind_eq fun ms ms' hms => hms.map_required (map_string ht a)

theorem RekeyedPair.certificateOf {pair pair' : Node} (h : RekeyedPair pair pair')
    {ms ms' : Members} (hms : ms.DifferAt "keyPair" pair pair' ms') :
    (Response.certificateOf ms').map Certificate.veiled
      = (Response.certificateOf ms).map Certificate.veiled := by
  have hkey : (ms'.required "keyPair" Response.privateKey).map (fun _ => "")
      = (ms.required "keyPair" Response.privateKey).map (fun _ => "") :=
    hms.map_required (h.privateKey "")
  unfold Response.certificateOf
  rw [hms.required_of_ne (show "certificateArn" ≠ "keyPair" by decide),
    hms.required_of_ne (show "certificateId" ≠ "keyPair" by decide),
    hms.required_of_ne (show "certificatePem" ≠ "keyPair" by decide)]
  rcases ms.required "certificateArn" string with e | arn
  · rfl
  rcases ms.required "certificateId" string with e | id
  · rfl
  rcases ms.required "certificatePem" string with e | pem
  · rfl
  -- Only a key can be different, and it is hidden.
  rcases hread : ms.required "keyPair" Response.privateKey with e | key <;>
    rcases hread' : ms'.required "keyPair" Response.privateKey with e' | key' <;>
    rw [hread, hread'] at hkey
  · exact congrArg Except.error (Except.error.inj hkey)
  · exact absurd hkey (by simp [Except.map])
  · exact absurd hkey (by simp [Except.map])
  · rfl

/-- Another private key makes another certificate with the same rest. -/
theorem Rekeyed.certificate {node node' : Node} (h : Rekeyed node node') :
    (Response.certificate node').map Certificate.veiled
      = (Response.certificate node).map Certificate.veiled := by
  rw [certificate_eq, certificate_eq, map_bind_except, map_bind_except]
  cases h with
  | same => rfl
  | @object before after closed name pair pair' hname hpair =>
      have hmembers : SameBut name.text pair pair'
          (certificateShape.members (.object (before ++ (name, pair) :: after) closed))
          (certificateShape.members (.object (before ++ (name, pair') :: after) closed)) := by
        refine members_object_sameBut (fun field hfield hcheck => ?_) hpair.isIntact before after
          closed
        rw [hname] at hcheck
        -- No other field has the name.
        have hfour : field = Field.of "keyPair" Response.privateKey := by
          simp only [certificateShape, List.mem_cons, List.not_mem_nil, or_false] at hfield
          rcases hfield with rfl | rfl | rfl | rfl
          · exact absurd hcheck (by simp [Field.of])
          · exact absurd hcheck (by simp [Field.of])
          · exact absurd hcheck (by simp [Field.of])
          · rfl
        rw [hfour]
        exact hpair.privateKey ()
      rw [hname] at hmembers
      exact hmembers.bind_eq fun ms ms' hms => hpair.certificateOf hms
  | @array arn id pem after closed pair pair' hpair =>
      have hmembers : SameBut "keyPair" pair pair'
          (certificateShape.members (.array (arn :: id :: pem :: pair :: after) closed))
          (certificateShape.members (.array (arn :: id :: pem :: pair' :: after) closed)) :=
        members_array_sameBut [arn, id, pem] after closed (.of "keyPair" Response.privateKey) rfl
          (hpair.privateKey ())
      exact hmembers.bind_eq fun ms ms' hms => hpair.certificateOf hms

end Response

/-! ## The client -/

/-- The outputs of two commands that are the same up to a private key in what they print. -/
structure CommandOutput.Rekeyed (o o' : CommandOutput) : Prop where
  code : o'.code = o.code
  stderr : o'.stderr = o.stderr
  root : Response.Rekeyed (Json.read o.stdout).root (Json.read o'.stdout).root
  clean : (Json.read o'.stdout).clean = (Json.read o.stdout).clean

/-- Of two outputs it is said in the same words what is wrong with them. -/
def CommandOutput.WordedAlike (wordings : Client.Wordings) (o o' : CommandOutput) : Prop :=
  ∀ label e, wordings label o'.stdout e = wordings label o.stdout e

namespace Script

/-- Two lists of outputs for some requests, one after the other: those for a certificate are
    alike in some way, and the others are the same. -/
inductive Answering (like : CommandOutput → CommandOutput → Prop) :
    List Request → List CommandOutput → List CommandOutput → Prop
  | done (os os' : List CommandOutput) : Answering like [] os os'
  | spent (rest : List Request) : Answering like rest [] []
  | same {rest : List Request} {os os' : List CommandOutput} (r : Request) (o : CommandOutput)
      (h : Answering like rest os os') : Answering like (r :: rest) (o :: os) (o :: os')
  | certificate {rest : List Request} {os os' : List CommandOutput} {o o' : CommandOutput}
      (ho : like o o') (h : Answering like rest os os') :
      Answering like (.createCertificate :: rest) (o :: os) (o' :: os')

/-- Two scripts with such outputs, from which the same commands were answered. -/
structure Comparable (like : CommandOutput → CommandOutput → Prop) (requests : List Request)
    (s s' : Script) : Prop where
  responses : Answering like requests s.responses s'.responses
  invocations : s'.invocations = s.invocations

end Script

namespace Client

variable {o o' : CommandOutput}

theorem decode_certificate (h : o.Rekeyed o') :
    (Json.decode Response.certificate o'.stdout).map Certificate.veiled
      = (Json.decode Response.certificate o.stdout).map Certificate.veiled := by
  have hread := h.root.certificate
  simp only [Json.decode, h.clean]
  rcases hfirst : Response.certificate (Json.read o.stdout).root with e | certificate <;>
    rcases hsecond : Response.certificate (Json.read o'.stdout).root with e' | certificate' <;>
    rw [hfirst, hsecond] at hread
  · rw [Except.error.inj hread]
  · exact absurd hread (by simp [Except.map])
  · exact absurd hread (by simp [Except.map])
  · rcases (Json.read o.stdout).clean
    · rfl
    · exact congrArg Except.ok (Except.ok.inj hread)

theorem classify_rekeyed (h : o.Rekeyed o') (label : String) :
    classify label o' = classify label o := by
  simp only [classify, CommandOutput.statusText, h.code, h.stderr]

variable {view : ServiceError → ServiceError} {wordings : Wordings}
  {like : CommandOutput → CommandOutput → Prop}

/-- Two outputs with different keys answer the request for a certificate alike, if a view of the
    failure does not show in which words it is told. -/
theorem answer_rekeyed (h : o.Rekeyed o') (label : String)
    (hworded : ∀ e, view (.malformedResponse label (wordings label o'.stdout e))
      = view (.malformedResponse label (wordings label o.stdout e))) :
    let r := Request.createCertificate
    r.veil view (answer wordings r label o'.stdout)
      = r.veil view (answer wordings r label o.stdout) := by
  intro r
  have hread := decode_certificate h
  simp only [Request.veil, answer, reading]
  rcases hfirst : Json.decode Response.certificate o.stdout with e | certificate <;>
    rcases hsecond : Json.decode Response.certificate o'.stdout with e' | certificate' <;>
    rw [hfirst, hsecond] at hread
  · obtain rfl : e' = e := Except.error.inj hread
    exact congrArg Except.error (hworded e')
  · exact absurd hread (by simp [Except.map])
  · exact absurd hread (by simp [Except.map])
  · exact congrArg Except.ok (Except.ok.inj hread)

/-- Run by scripts that differ in private keys, the client is the same service up to these and
    to words that are not shown. -/
theorem mirrors_rekeyed (client : Client) (hlike : ∀ o o', like o o' → o.Rekeyed o')
    (hworded : ∀ o o', like o o' → ∀ label e,
      view (.malformedResponse label (wordings label o'.stdout e))
        = view (.malformedResponse label (wordings label o.stdout e))) :
    Service.Mirrors view (client.serviceIn wordings Script.runner)
      (client.serviceIn wordings Script.runner) (Script.Comparable like) := by
  rintro r rest ⟨responses, invocations⟩ ⟨responses', invocations'⟩ ⟨hresponses, hinvocations⟩
  obtain rfl : invocations' = invocations := hinvocations
  cases hresponses with
  | spent => exact ⟨rfl, .spent _, rfl⟩
  | same r o h =>
      simp only [serviceIn, Script.runner]
      split <;> exact ⟨rfl, h, rfl⟩
  | @certificate rest os os' o o' ho h =>
      have hrekeyed := hlike o o' ho
      have hsuccess : o'.isSuccess = o.isSuccess := by
        simp only [CommandOutput.isSuccess, hrekeyed.code]
      simp only [serviceIn, Script.runner, hsuccess, classify_rekeyed hrekeyed]
      split
      · exact ⟨answer_rekeyed hrekeyed _ (hworded o o' ho _), h, rfl⟩
      · exact ⟨rfl, h, rfl⟩

end Client

end Qualifier
