import MetricDesk.Digest.Sha256
import MetricDesk.Proofs.Plan.Wire

/-! Keys of results. Main statement: `result_injective`, where no two of the texts that are digested
have the same digest, the key of a result tells its tenant and its plan, whatever characters the
tenant is made of. -/
namespace MetricDesk.Key

/-- The texts that are digested for the key of a result. -/
def texts (digest : Digest) (tenant : String) (p : Plan) : List String :=
  [canonical p.toValue, resultText tenant (content digest p.toValue)]

/-- A digest that has one length for all texts and tells some of them apart. -/
structure Faithful (digest : Digest) (texts : List String) : Prop where
  length : ∀ a b, (digest a).length = (digest b).length
  separate : ∀ a ∈ texts, ∀ b ∈ texts, digest a = digest b → a = b

theorem Faithful.mono {digest : Digest} {few many : List String} (h : Faithful digest many)
    (subset : ∀ a ∈ few, a ∈ many) : Faithful digest few where
  length := h.length
  separate a ha b hb := h.separate a (subset a ha) b (subset b hb)

/-- The content stands at the end of the text and has one length, so that a bar inside the tenant
does not matter. -/
theorem resultText_injective {t u c d : String} (length : c.length = d.length)
    (h : resultText t c = resultText u d) : t = u ∧ c = d := by
  have chars := congrArg String.toList h
  simp only [resultText, String.toList_append] at chars
  obtain ⟨front, content⟩ :=
    List.append_inj' chars (by rwa [String.length_toList, String.length_toList])
  obtain ⟨front, -⟩ := List.append_inj' front rfl
  exact ⟨String.toList_injective (List.append_cancel_left front), String.toList_injective content⟩

/-- The key of a result tells its tenant and its plan. -/
theorem result_injective {digest : Digest} {t u : String} {p q : Plan}
    (faithful : Faithful digest (texts digest t p ++ texts digest u q))
    (h : result digest t p.toValue = result digest u q.toValue) : t = u ∧ p = q := by
  have text := faithful.separate _ (by simp [texts]) _ (by simp [texts]) h
  obtain ⟨tenant, content⟩ := resultText_injective (faithful.length _ _) text
  have canonical := faithful.separate _ (by simp [texts]) _ (by simp [texts]) content
  exact ⟨tenant, Plan.canonical_injective canonical⟩

end MetricDesk.Key

namespace MetricDesk.Sha256

theorem length_hexWord (w : UInt32) : (hexWord w).length = 8 := by
  have digits : (Nat.toDigits 16 w.toNat).length ≤ 8 := by
    rw [Nat.length_toDigits_le_iff (by decide) (by decide)]
    exact w.toNat_lt
  rw [hexWord, List.length_append, List.length_replicate]
  omega

/-- Every digest has sixty-four characters. -/
theorem length_ofText (s : String) : (ofText s).length = 64 := by
  simp [ofText, hex, String.length_ofList, State.toList, length_hexWord]

end MetricDesk.Sha256
