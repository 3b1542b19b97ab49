import MetricDesk.Proofs.Cache.Key
import MetricDesk.Proofs.Json.Order

/-! What the key of a result depends on. Main statement: `result_eq_iff`, where the digest tells the
texts apart that are digested, two keys are the same iff the tenants are and the documents are but for
the order of keys. -/
namespace MetricDesk.Key
open Value (Alike Distinct)

/-- A document that can be digested: all of it is JSON, and no object in it has a key twice. -/
structure Digestible (v : Value) : Prop where
  json : Json.foreign? v = none
  distinct : Distinct v

/-- The texts that are digested for the key of a tenant and a document. -/
def textsOf (digest : Digest) (tenant : String) (v : Value) : List String :=
  [canonical v, resultText tenant (content digest v)]

theorem Digestible.contentOf {v : Value} (h : Digestible v) (digest : Digest) :
    contentOf digest v = .ok (content digest v) := by
  rw [Key.contentOf, Json.foreign?_sorted v h.json]

/-- The canonical text ignores the order of keys and nothing else. -/
theorem canonical_eq_iff {v w : Value} (hv : Digestible v) (hw : Digestible w) :
    canonical v = canonical w ↔ v.Alike w := by
  rw [← Json.sorted_eq_iff hv.distinct hw.distinct]
  constructor
  · exact Json.text_injective (Json.foreign?_sorted v hv.json) (Json.foreign?_sorted w hw.json)
  · exact congrArg (Json.text Json.canonical)

theorem content_eq_iff {digest : Digest} {v w : Value} (hv : Digestible v) (hw : Digestible w)
    (faithful : Faithful digest [canonical v, canonical w]) :
    content digest v = content digest w ↔ v.Alike w := by
  rw [← canonical_eq_iff hv hw]
  constructor
  · exact faithful.separate _ (by simp) _ (by simp)
  · exact congrArg digest

/-- Every document that can be digested has a key, and two keys are the same iff the tenants are and
the documents are but for the order of keys at any depth. The same goes for the contents alone. -/
theorem result_eq_iff {digest : Digest} {t u : String} {v w : Value} (hv : Digestible v)
    (hw : Digestible w) (faithful : Faithful digest (textsOf digest t v ++ textsOf digest u w)) :
    contentOf digest v = .ok (content digest v) ∧ contentOf digest w = .ok (content digest w) ∧
      (content digest v = content digest w ↔ v.Alike w) ∧
      (result digest t v = result digest u w ↔ t = u ∧ v.Alike w) := by
  have contents : content digest v = content digest w ↔ v.Alike w := by
    apply content_eq_iff hv hw
    apply faithful.mono
    simp [textsOf]
  refine ⟨hv.contentOf digest, hw.contentOf digest, contents, ?_⟩
  rw [← contents]
  constructor
  · intro same
    have text := faithful.separate _ (by simp [textsOf]) _ (by simp [textsOf]) same
    exact resultText_injective (faithful.length _ _) text
  · rintro ⟨rfl, same⟩
    rw [result, result, same]

/-- A document with its keys in two orders: the contents are the same, and the keys apart where one
tenant is the front of the other up to a bar. -/
theorem result_ne_behind_bar :
    let v : Value := .obj [("metric", .str "revenue"),
      ("time_range", .obj [("type", .str "last_n_days"), ("n", .nat 7)])]
    let w : Value := .obj [("time_range", .obj [("n", .nat 7), ("type", .str "last_n_days")]),
      ("metric", .str "revenue")]
    Digestible v ∧ Digestible w ∧
      Faithful Sha256.ofText
        (textsOf Sha256.ofText "north" v ++ textsOf Sha256.ofText "north|south" w) ∧
      v.Alike w ∧ content Sha256.ofText v = content Sha256.ofText w ∧
      result Sha256.ofText "north" v ≠ result Sha256.ofText "north|south" w := by
  intro v w
  have range : Distinct (.obj [("type", .str "last_n_days"), ("n", .nat 7)]) :=
    Value.distinct_obj.mpr ⟨by decide, by simp [Value.distinct_str, Value.nat, Value.distinct_num]⟩
  have turned : Distinct (.obj [("n", .nat 7), ("type", .str "last_n_days")]) :=
    Value.distinct_obj.mpr ⟨by decide, by simp [Value.distinct_str, Value.nat, Value.distinct_num]⟩
  have hv : Digestible v :=
    ⟨rfl, Value.distinct_obj.mpr ⟨by decide, by simp [Value.distinct_str, range]⟩⟩
  have hw : Digestible w :=
    ⟨rfl, Value.distinct_obj.mpr ⟨by decide, by simp [Value.distinct_str, turned]⟩⟩
  have faithful : Faithful Sha256.ofText
      (textsOf Sha256.ofText "north" v ++ textsOf Sha256.ofText "north|south" w) :=
    ⟨fun a b => by rw [Sha256.length_ofText, Sha256.length_ofText], by decide +kernel⟩
  have alike : v.Alike w := by
    apply Alike.order (List.Perm.swap _ _ [])
    exact .field (.order (List.Perm.swap _ _ []) (.same _)) (.same _)
  obtain ⟨-, -, contents, keys⟩ := result_eq_iff hv hw faithful
  refine ⟨hv, hw, faithful, alike, contents.mpr alike, ?_⟩
  intro same
  have tenants : "north" = "north|south" := (keys.mp same).1
  exact absurd tenants (by decide)

end MetricDesk.Key
