import Qualifier.Proofs.Text.Segments
import Qualifier.Service.Simulated

/-!
# The Names of Certificates

The simulated services number the certificates they issue, and the number is all
that tells one from another. A name is written with at least four digits, and
reading the digits back gives the number, so two numbers never share a name.

A certificate is referred to by its full name, and its store goes by the part after
the last `/`. There are two ways to cut that part out, one on either side of the
service, and `storedUnder_eq` says that they agree.

## Main definitions

* `Unissued`: A store holds no certificate with a number beyond some count.

## Theorems

* `certificateId_injective`: A name tells its number.
* `storedUnder_eq`: Both sides of the service cut a full name alike.
* `certificateIdOfArn_certificateArn`: Cutting a full name gives back the name.
* `Unissued.insert`: The next certificate takes up the next number.
* `Unissued.get?_next`: Its name is free.
-/

namespace Qualifier

namespace Simulated

/-- The digits of a number, with or without zeros before them, stand for it. -/
theorem ofDigitChars_fourDigits (n : Nat) :
    Nat.ofDigitChars 10 (fourDigits n).toList 0 = n := by
  simp [fourDigits, Nat.ofDigitChars_append]

theorem certificateId_injective : Function.Injective certificateId := by
  intro n m h
  have hdigits : (fourDigits n).toList = (fourDigits m).toList := by
    have hlist := congrArg String.toList h
    simp only [certificateId, String.toList_append] at hlist
    exact List.append_cancel_left hlist
  rw [← ofDigitChars_fourDigits n, hdigits, ofDigitChars_fourDigits]

theorem slash_not_mem_certificateId (n : Nat) : '/' ∉ (certificateId n).toList := by
  intro h
  simp only [certificateId, fourDigits, String.toList_append, String.toList_ofList,
    List.mem_append] at h
  -- The letters before the number, the zeros, and the digits themselves.
  rcases h with h | h | h
  · exact absurd h (by decide)
  · exact absurd (List.eq_of_mem_replicate h) (by decide)
  · have hdigit : '/'.isDigit = true :=
      Nat.isDigit_of_mem_toDigits (by decide) (by decide) h
    exact absurd hdigit (by decide)

theorem storedUnder_eq (target : String) : storedUnder target = certificateIdOfArn target := by
  rw [storedUnder, certificateIdOfArn, Text.getLastD_segments]

/-- A name without a `/` is what its full name is cut down to. -/
theorem certificateIdOfArn_certificateArn {id : String} (h : '/' ∉ id.toList) :
    certificateIdOfArn (certificateArn id) = id := by
  -- The last `/` of a full name is the one its name comes after.
  have hstem : "arn:aws:iot:test:000000000000:cert/".toList
      = "arn:aws:iot:test:000000000000:cert".toList ++ ['/'] := by decide
  have hsplit : (certificateArn id).toList
      = "arn:aws:iot:test:000000000000:cert".toList ++ '/' :: id.toList := by
    unfold certificateArn
    rw [String.toList_append, hstem, List.append_assoc, List.singleton_append]
  rw [certificateIdOfArn, hsplit, Text.afterLast_append _ _ _ h, String.ofList_toList]

/-- A store that holds no certificate with a number beyond `count`. -/
def Unissued (certificates : Catalog String StoredCertificate) (count : Nat) : Prop :=
  ∀ n, count < n → certificates.get? (certificateId n) = none

theorem Unissued.mono {certificates : Catalog String StoredCertificate} {count later : Nat}
    (h : Unissued certificates count) (hle : count ≤ later) : Unissued certificates later :=
  fun n hn => h n (Nat.lt_of_le_of_lt hle hn)

/-- The certificate that is issued next takes up the next number. -/
theorem Unissued.insert {certificates : Catalog String StoredCertificate} {count : Nat}
    (h : Unissued certificates count) (cert : StoredCertificate) :
    Unissued (certificates.insert (certificateId (count + 1)) cert) (count + 1) := by
  intro n hn
  have hne : certificateId n ≠ certificateId (count + 1) := by
    intro heq
    have hsame := certificateId_injective heq
    omega
  rw [Catalog.get?_insert_of_ne _ _ hne]
  exact h n (by omega)

theorem toNat_succ {n : UInt32} (h : n.toNat + 1 < UInt32.size) : (n + 1).toNat = n.toNat + 1 := by
  have hone : (1 : UInt32).toNat = 1 := rfl
  rw [UInt32.toNat_add, hone]
  exact Nat.mod_eq_of_lt h

/-- The certificate that is issued next is a new one, as long as the count can go
    up. -/
theorem Unissued.get?_next {certificates : Catalog String StoredCertificate} {n : UInt32}
    (h : Unissued certificates n.toNat) (hlimit : n.toNat + 1 < UInt32.size) :
    certificates.get? (certificateId (n + 1).toNat) = none := by
  refine h _ ?_
  rw [toNat_succ hlimit]
  omega

end Simulated

end Qualifier
