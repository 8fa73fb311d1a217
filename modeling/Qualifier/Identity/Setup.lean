import Qualifier.Identity.Teardown
import Qualifier.Json.Writer

/-!
# Setting an Identity Up

How a thing is registered, given a certificate and a policy, and its credentials
written to files. A setup that fails half way is rolled back: a certificate that
was issued is retired, files that were written are removed, and the thing is taken
down, each of these even if the one before fails. The failure reported is that of
the setup.

## Main definitions

* `Setback`: A failed setup with what it leaves to be rolled back.
* `complete`: The setup after the registration of the thing.
* `rollback`: What follows a setback.
* `provision`: The whole setup.
* `seedShadow`: The first state of a thing's shadow.
-/

namespace Qualifier

/-- A failed setup: the failure, the certificate that was issued, and the files that
    were written, in order. -/
structure Setback where
  error : ProvisionError
  certificate : Option String
  written : List Path
deriving DecidableEq, Repr

/-- The identity that a completed setup amounts to. -/
def Specification.identity (spec : Specification) (thing : Thing) (certificate : Certificate) :
    Identity where
  thingName := thing.name
  thingArn := thing.arn
  certificateArn := certificate.arn
  certificateId := certificate.id
  policy := spec.policy
  group := spec.group
  certificatePath := spec.certificatePath
  keyPath := spec.keyPath

/-- Attaches the policy to the certificate and the certificate to the thing. -/
def attach (spec : Specification) (thing : Thing) (certificate : Certificate) :
    Program (Except Setback Identity) := do
  let written := [spec.certificatePath, spec.keyPath]
  match ← Program.request (.attachPolicy spec.policy certificate.arn) with
  | .error cause =>
    pure (.error ⟨.service .attachPolicy thing.name cause, some certificate.id, written⟩)
  | .ok _ =>
    match ← Program.request (.attachPrincipal thing.name certificate.arn) with
    | .error cause =>
      pure (.error ⟨.service .attachPrincipal thing.name cause, some certificate.id, written⟩)
    | .ok _ => pure (.ok (spec.identity thing certificate))

/-- Writes the credentials, then attaches them. -/
def deliver (spec : Specification) (thing : Thing) (certificate : Certificate) :
    Program (Except Setback Identity) := do
  match ← Program.question (.write spec.certificatePath certificate.pem) with
  | .error cause => pure (.error ⟨.credentials thing.name cause, some certificate.id, []⟩)
  | .ok _ =>
    match ← Program.question (.writePrivate spec.keyPath certificate.privateKey) with
    | .error cause =>
      pure (.error ⟨.credentials thing.name cause, some certificate.id, [spec.certificatePath]⟩)
    | .ok _ => attach spec thing certificate

/-- Has a certificate issued, then delivers it. -/
def certify (spec : Specification) (thing : Thing) : Program (Except Setback Identity) := do
  match ← Program.request .createCertificate with
  | .error cause => pure (.error ⟨.service .createCertificate thing.name cause, none, []⟩)
  | .ok certificate => deliver spec thing certificate

/-- Everything after the registration of the thing. -/
def complete (spec : Specification) (thing : Thing) : Program (Except Setback Identity) :=
  match spec.group with
  | none => certify spec thing
  | some group => do
    match ← Program.request (.addThingToGroup group thing.name) with
    | .error cause => pure (.error ⟨.service .addToGroup thing.name cause, none, []⟩)
    | .ok _ => certify spec thing

/-- Removes files one after the other, whether or not each can be removed. -/
def removeAll : List Path → Program Unit
  | [] => pure ()
  | path :: rest => do
    let _ ← Program.question (.remove path)
    removeAll rest

/-- Undoes what a setback left, as far as that is possible. -/
def rollback (thing : String) (setback : Setback) : Program Unit := do
  match setback.certificate with
  | none => pure ()
  | some id =>
    let _ ← retire thing id
    pure ()
  removeAll setback.written
  -- Last, since a thing with a principal cannot be deleted before it is detached.
  let _ ← deprovision thing
  pure ()

/-- Sets an identity up, or leaves nothing of it. -/
def provision (spec : Specification) : Program (Except ProvisionError Identity) := do
  match ← Program.request (.createThing spec.thing) with
  | .error cause => pure (.error (.service .createThing spec.thing cause))
  | .ok thing =>
    match ← complete spec thing with
    | .ok identity => pure (.ok identity)
    | .error setback =>
      -- The name asked for is taken down, whatever name the answer gave.
      rollback spec.thing setback
      pure (.error setback.error)

/-- The document that sets a property of a shadow to a value, both as it is wanted
    and as it is reported. -/
def shadowDocument (property value : String) : Json.Value :=
  let state := Json.Value.object [(property, .string value)]
  .object [("state", .object [("desired", state), ("reported", state)])]

/-- Gives a thing's shadow its first state. -/
def seedShadow (thing property value : String) : Program (Except ProvisionError Unit) := do
  match ← Program.request (.updateShadow thing (shadowDocument property value).render) with
  | .error cause => pure (.error (.service .seedShadow thing cause))
  | .ok _ => pure (.ok ())

end Qualifier
