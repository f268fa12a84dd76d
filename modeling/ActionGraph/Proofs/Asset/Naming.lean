import ActionGraph.Proofs.Asset.Assembly
import Mathlib.Data.String.Basic

/-!
# How long the name of a flow may be

The name of a flow is refused if it takes more than a hundred bytes, and the refusal speaks of a
hundred characters. A character takes one byte up to four, so both limits are the same for names in
ASCII, and the limit of bytes is the stricter one for all others. What else is written has no
bearing on it: the name is judged on its own.
-/

namespace ActionGraph

namespace Text

theorem utf8ByteSize_eq_sum (s : String) : s.utf8ByteSize = (s.toList.map Char.utf8Size).sum := by
  rw [← String.ofList_toList (s := s), String.utf8ByteSize_ofList, String.toList_ofList]
  generalize s.toList = cs
  induction cs with
  | nil => rfl
  | cons c rest ih => rw [String.utf8Len_cons, ih, List.map_cons, List.sum_cons, Nat.add_comm]

theorem length_le_utf8ByteSize (s : String) : s.length ≤ s.utf8ByteSize := by
  rw [utf8ByteSize_eq_sum, ← String.length_toList]
  generalize s.toList = cs
  induction cs with
  | nil => exact Nat.le_refl 0
  | cons c rest ih =>
    have hone := c.utf8Size_pos
    rw [List.map_cons, List.sum_cons, List.length_cons]
    omega

/-- In ASCII, where every character takes one byte, both counts are the same. -/
theorem utf8ByteSize_of_ascii {s : String} (h : ∀ c ∈ s.toList, c.utf8Size = 1) :
    s.utf8ByteSize = s.length := by
  rw [utf8ByteSize_eq_sum, ← String.length_toList, List.map_congr_left h, List.map_const',
    List.sum_replicate_nat, Nat.mul_one]

end Text

namespace Naming

variable {name : String}

theorem checkFlowName_of_ne (hsome : name ≠ "") : checkFlowName name
    = if flowNameLimit < name.utf8ByteSize then .error .longFlowName else .ok () := by
  rw [checkFlowName, if_neg]
  rwa [String.isEmpty_iff]

theorem checkFlowName_eq_ok_iff :
    checkFlowName name = .ok () ↔ 0 < name.length ∧ name.utf8ByteSize ≤ flowNameLimit := by
  by_cases hempty : name = ""
  · simp [checkFlowName, hempty]
  · have hpos : 0 < name.length := Nat.pos_of_ne_zero (mt String.length_eq_zero_iff.1 hempty)
    rw [checkFlowName_of_ne hempty, and_iff_right hpos, ← Nat.not_lt]
    split <;> simp [*]

theorem checkFlowName_of_long (hlong : flowNameLimit < name.utf8ByteSize) :
    checkFlowName name = .error .longFlowName := by
  have hsome : name ≠ "" := by
    rintro rfl
    cases hlong
  rw [checkFlowName_of_ne hsome, if_pos hlong]

end Naming

/-- The same asset under another name. -/
def AssetForm.named (form : AssetForm) (name : String) : AssetForm := { form with name }

/-- Nothing but the name itself hangs on the name. -/
theorem AssetForm.isSound_named_iff {form : AssetForm} {other : String}
    (hother : (form.named other).IsSound) {name : String} :
    (form.named name).IsSound ↔ Naming.checkFlowName name = .ok () :=
  ⟨fun h => h.name, fun hname => { hother with name := hname }⟩

namespace Asset

theorem ofForm_of_bad_name {form : AssetForm} {refusal : Refusal}
    (h : Naming.checkFlowName form.name = .error refusal) :
    ofForm form = .error (.refused refusal) := by
  have hname : Naming.checkFlowName form.toDraft.name = .error refusal := by
    rwa [AssetForm.toDraft_eq]
  rw [ofForm, Draft.build, hname]
  rfl

/-- **The limit of flow names counts bytes.** An asset that builds under some name builds under
another one if this takes one byte up to a hundred, and is refused as too long if it takes more. To
allow one character up to a hundred comes to the same, unless a hundred characters or fewer take
more than a hundred bytes; and in ASCII they do not. -/
theorem flow_names_are_limited_by_bytes {form : AssetForm}
    (hother : ∃ other, (form.named other).IsSound) (name : String) :
    let builds := ∃ asset, ofForm (form.named name) = .ok asset
    (builds ↔ 0 < name.length ∧ name.utf8ByteSize ≤ 100) ∧
    (100 < name.utf8ByteSize → ofForm (form.named name) = .error (.refused .longFlowName)) ∧
    ((builds ↔ 0 < name.length ∧ name.length ≤ 100) ↔
      ¬(name.length ≤ 100 ∧ 100 < name.utf8ByteSize)) ∧
    ((∀ c ∈ name.toList, c.utf8Size = 1) → (builds ↔ 0 < name.length ∧ name.length ≤ 100)) := by
  intro builds
  obtain ⟨other, hsound⟩ := hother
  have hbuilds : builds ↔ 0 < name.length ∧ name.utf8ByteSize ≤ 100 :=
    exists_ofForm_iff.trans <| (AssetForm.isSound_named_iff hsound).trans
      Naming.checkFlowName_eq_ok_iff
  have hfewer := Text.length_le_utf8ByteSize name
  refine ⟨hbuilds, fun hlong => ?_, ?_, fun hascii => ?_⟩
  · exact ofForm_of_bad_name (Naming.checkFlowName_of_long hlong)
  · have hnone : name.length = 0 → name.utf8ByteSize = 0 := by
      rw [String.length_eq_zero_iff]
      rintro rfl
      rfl
    rw [hbuilds]
    omega
  · rw [hbuilds, Text.utf8ByteSize_of_ascii hascii]

/-- A tale of one action, still without a title. -/
def tale : AssetForm where
  name := ""
  start? := none
  bindings := .empty
  actions := [⟨"end", "end", .null, []⟩]

theorem flow_names_are_limited_by_bytes_for_tale :
    (tale.named "tale").IsSound ∧ ∃ asset, ofForm (tale.named "The Golden Key") = .ok asset := by
  have hsound : (tale.named "tale").IsSound := exists_ofForm_iff.1 ⟨_, rfl⟩
  obtain ⟨hbuilds, -⟩ := flow_names_are_limited_by_bytes ⟨_, hsound⟩ "The Golden Key"
  exact ⟨hsound, hbuilds.2 (by decide +kernel)⟩

/-- A name of 34 characters that takes 102 bytes is refused as if it had more than a hundred
characters. -/
theorem flow_name_of_few_characters_is_refused :
    let name := String.ofList (List.replicate 34 '金')
    (∃ other, (tale.named other).IsSound) ∧ name.length = 34 ∧
      ofForm (tale.named name) = .error (.refused .longFlowName) ∧
      ¬((∃ asset, ofForm (tale.named name) = .ok asset)
        ↔ 0 < name.length ∧ name.length ≤ 100) := by
  intro name
  have hsound : (tale.named "tale").IsSound := exists_ofForm_iff.1 ⟨_, rfl⟩
  have hlength : name.length = 34 := by decide +kernel
  have hrefused : ofForm (tale.named name) = .error (.refused .longFlowName) :=
    ofForm_of_bad_name (Naming.checkFlowName_of_long (by decide +kernel))
  refine ⟨⟨_, hsound⟩, hlength, hrefused, fun hclaim => ?_⟩
  obtain ⟨asset, hasset⟩ := hclaim.2 (by omega)
  rw [hrefused] at hasset
  cases hasset

end Asset

end ActionGraph
