import ActionGraph.Asset.Form
import ActionGraph.Json.Printer
import ActionGraph.Proofs.Condition.Finite

/-!
# What is written of an asset

The form of an asset is written with its members in the order of the form, and as a finished value
with all members sorted. Either reads as the form that was written, if all numbers in the form are
finite and its parameters are sorted, and so it is with every form that was read of a valid value.
-/

namespace ActionGraph

open Json (Decoder Field Record)

theorem Json.sortedItems_map {α : Type} (toJson : α → Json) (xs : List α) :
    Json.sortedItems (xs.map toJson) = xs.map fun x => (toJson x).sorted := by
  rw [sortedItems_eq_map, List.map_map]
  rfl

/-! ### Values and bindings -/

theorem Value.decoder_reads {v : Value} (hfinite : v.isFinite = true) :
    Value.decoder.Reads v.toJson v := by
  intro origin r hr
  rw [decoder, hr, ok_bind, ofJson_toJson, if_pos hfinite]

namespace Bindings

/-- Whether every number that is bound is finite. -/
def IsFinite (b : Bindings) : Prop := ∀ entry ∈ b.entries, entry.2.isFinite = true

/-- To bind the entries one after the other is to append them. -/
theorem entries_foldl_set (b : Bindings) {entries : List (String × Value)}
    (h : Table.IsSorted (b.entries ++ entries)) :
    (entries.foldl (fun b (name, value) => b.set name value) b).entries = b.entries ++ entries := by
  induction entries generalizing b with
  | nil => rw [List.append_nil]; rfl
  | cons entry rest ih =>
    obtain ⟨name, value⟩ := entry
    have hlast : ∀ bound ∈ b.entries, bound.1 < name := fun bound hbound =>
      (List.pairwise_append.1 h).2.2 bound hbound (name, value) List.mem_cons_self
    have hset : (b.set name value).entries = b.entries ++ [(name, value)] :=
      Table.insert_of_forall_lt hlast value
    have hrest := ih (b.set name value) (by rwa [hset, List.append_assoc])
    rw [List.foldl_cons, hrest, hset, List.append_assoc, List.singleton_append]

theorem ext {b other : Bindings} (h : b.entries = other.entries) : b = other := by
  cases b
  cases other
  cases h
  rfl

theorem foldl_set (b : Bindings) :
    b.entries.foldl (fun b (name, value) => set b name value) empty = b :=
  ext (entries_foldl_set empty b.sorted)

theorem table_reads {b : Bindings} (hfinite : b.IsFinite) :
    (Value.decoder.table set empty).Reads b.toJson b := by
  have hreads : (Value.decoder.table set empty).Reads b.toJson _ :=
    Decoder.table_reads fun entry hentry => Value.decoder_reads (hfinite entry hentry)
  rwa [foldl_set] at hreads

theorem table_yields : (Value.decoder.table set empty).Yields IsFinite := by
  refine Value.decoder_yields.table nofun fun b name value hb hvalue entry hentry => ?_
  rcases Table.eq_or_mem_of_mem_insert hentry with rfl | hold
  · exact hvalue
  · exact hb entry hold

theorem toJson_sorted (b : Bindings) : b.toJson.sorted = b.toJson := by
  refine Json.sorted_object ⟨List.pairwise_map.2 b.sorted, fun entry hentry => ?_⟩
  obtain ⟨bound, -, rfl⟩ := List.mem_map.1 hentry
  exact bound.2.toJson_sorted

end Bindings

namespace Condition

theorem decoder_reads_of_finite {c : Condition} (h : c.HasFiniteConstants) :
    decoder.Reads c.toValue c ∧ decoder.Reads c.toJson c := by
  have hrestored : c.restored = c := (restored_eq_iff c).2 (hasFiniteConstants_iff.1 h)
  have hreads := c.decoder_reads
  rwa [ofForm_toForm, hrestored] at hreads

end Condition

/-! ### Links -/

namespace Link

variable {link : Link}

theorem toJson_sorted : link.toJson.sorted
    = .object [("condition", link.condition.toValue), ("to", .string link.target),
        ("yield", .bool link.yields)] := by
  have hcondition : link.condition.toJson.sorted = link.condition.toValue := by
    rw [Condition.toValue, Condition.toJson]
  rw [← hcondition]
  rfl

theorem decoder_reads (h : link.condition.HasFiniteConstants) :
    form.decoder.Reads link.toJson link ∧ form.decoder.Reads link.toJson.sorted link := by
  obtain ⟨hvalue, hform⟩ := Condition.decoder_reads_of_finite h
  have htarget := Decoder.string_reads link.target
  have hyields := Decoder.boolean_reads link.yields
  rw [toJson_sorted]
  constructor
  · exact Record.decoder_reads (Record.takes_cons rfl (by simp) htarget
      (Record.takes_cons rfl (by simp) hform
        (Record.takes_cons rfl (by simp) hyields Record.takes_nil))) rfl
  · exact Record.decoder_reads (Record.takes_cons rfl (by simp) hvalue
      (Record.takes_cons rfl (by simp) htarget
        (Record.takes_cons rfl (by simp) hyields Record.takes_nil))) rfl

theorem decoder_yields : form.decoder.Yields fun link => link.condition.HasFiniteConstants := by
  refine Record.decoder_yields (fun field hfield => ?_)
    (Condition.hasFiniteConstants_of_eq_nil rfl)
  simp only [form, List.mem_cons, List.not_mem_nil, or_false] at hfield
  rcases hfield with rfl | rfl | rfl
  · exact Field.keeps_of Decoder.Yields.trivial fun _ _ h _ => h
  · exact Field.keeps_of Condition.decoder_yields fun _ _ _ h => h
  · exact Field.keeps_of Decoder.Yields.trivial fun _ _ h _ => h

end Link

/-! ### Actions -/

namespace ActionForm

/-- Whether the action is one that can be written: its parameters are sorted, and the numbers in the
conditions of its links are finite. -/
structure IsWritable (form : ActionForm) : Prop where
  params : form.params.sorted = form.params
  links : ∀ link ∈ form.links, link.condition.HasFiniteConstants

variable {action : ActionForm}

theorem toJson_sorted : action.toJson.sorted
    = .object [("id", .string action.id),
        ("links", .array (action.links.map fun link => link.toJson.sorted)),
        ("params", action.params.sorted), ("type", .string action.type)] := by
  rw [← Json.sortedItems_map]
  rfl

theorem decoder_reads (h : action.IsWritable) :
    form.decoder.Reads action.toJson action ∧ form.decoder.Reads action.toJson.sorted action := by
  have hid := Decoder.string_reads action.id
  have htype := Decoder.string_reads action.type
  have hparams := Decoder.sorted_reads action.params
  have hlinks := Decoder.list_reads fun link hlink => (Link.decoder_reads (h.links link hlink)).1
  have hsorted := Decoder.list_reads fun link hlink => (Link.decoder_reads (h.links link hlink)).2
  rw [toJson_sorted, h.params]
  rw [h.params] at hparams
  constructor
  · exact Record.decoder_reads (Record.takes_cons rfl (by simp) hid
      (Record.takes_cons rfl (by simp) htype
        (Record.takes_cons rfl (by simp) hparams
          (Record.takes_cons rfl (by simp) hlinks Record.takes_nil)))) rfl
  · exact Record.decoder_reads (Record.takes_cons rfl (by simp) hid
      (Record.takes_cons rfl (by simp) hsorted
        (Record.takes_cons rfl (by simp) hparams
          (Record.takes_cons rfl (by simp) htype Record.takes_nil)))) rfl

theorem decoder_yields : form.decoder.Yields IsWritable := by
  refine Record.decoder_yields (fun field hfield => ?_) ⟨rfl, nofun⟩
  simp only [form, List.mem_cons, List.not_mem_nil, or_false] at hfield
  have hsorted : Decoder.sorted.Yields fun params => params.sorted = params := by
    intro value _ params hparams
    rw [Json.decodeValue, Decoder.sorted, Json.anyValue_ofJson] at hparams
    cases hparams
    exact Json.sorted_sorted value
  rcases hfield with rfl | rfl | rfl | rfl
  · exact Field.keeps_of Decoder.Yields.trivial fun _ _ h _ => ⟨h.params, h.links⟩
  · exact Field.keeps_of Decoder.Yields.trivial fun _ _ h _ => ⟨h.params, h.links⟩
  · exact Field.keeps_of hsorted fun _ _ h hparams => ⟨hparams, h.links⟩
  · exact Field.keeps_of Link.decoder_yields.list fun _ _ h hlinks => ⟨h.params, hlinks⟩

end ActionForm

/-! ### Assets -/

namespace AssetForm

/-- Whether the asset is one that can be written. -/
structure IsWritable (form : AssetForm) : Prop where
  bindings : form.bindings.IsFinite
  actions : ∀ action ∈ form.actions, action.IsWritable

variable {asset : AssetForm}

theorem toJson_sorted : asset.toJson.sorted
    = .object [("actions", .array (asset.actions.map fun action => action.toJson.sorted)),
        ("name", .string asset.name), ("start", .ofOption asset.start?),
        ("variables", asset.bindings.toJson)] := by
  have hstart : (Json.ofOption asset.start?).sorted = .ofOption asset.start? := by
    cases asset.start? <;> rfl
  rw [← Json.sortedItems_map, ← hstart, ← Bindings.toJson_sorted]
  rfl

theorem decoder_reads (h : asset.IsWritable) :
    form.decoder.Reads asset.toJson asset ∧ form.decoder.Reads asset.toJson.sorted asset := by
  have hname := Decoder.string_reads asset.name
  have hstart := Decoder.optional_reads_ofOption asset.start?
  have hbindings := Bindings.table_reads h.bindings
  have hactions := Decoder.list_reads fun action haction =>
    (ActionForm.decoder_reads (h.actions action haction)).1
  have hsorted := Decoder.list_reads fun action haction =>
    (ActionForm.decoder_reads (h.actions action haction)).2
  rw [toJson_sorted]
  constructor
  · exact Record.decoder_reads (Record.takes_cons rfl (by simp) hname
      (Record.takes_cons rfl (by simp) hstart
        (Record.takes_cons rfl (by simp) hbindings
          (Record.takes_cons rfl (by simp) hactions Record.takes_nil)))) rfl
  · exact Record.decoder_reads (Record.takes_cons rfl (by simp) hsorted
      (Record.takes_cons rfl (by simp) hname
        (Record.takes_cons rfl (by simp) hstart
          (Record.takes_cons rfl (by simp) hbindings Record.takes_nil)))) rfl

theorem decoder_yields : form.decoder.Yields IsWritable := by
  refine Record.decoder_yields (fun field hfield => ?_) ⟨nofun, nofun⟩
  simp only [form, List.mem_cons, List.not_mem_nil, or_false] at hfield
  rcases hfield with rfl | rfl | rfl | rfl
  · exact Field.keeps_of Decoder.Yields.trivial fun _ _ h _ => ⟨h.bindings, h.actions⟩
  · exact Field.keeps_of Decoder.Yields.trivial fun _ _ h _ => ⟨h.bindings, h.actions⟩
  · exact Field.keeps_of Bindings.table_yields fun _ _ h hbindings => ⟨hbindings, h.actions⟩
  · exact Field.keeps_of ActionForm.decoder_yields.list fun _ _ h hactions =>
      ⟨h.bindings, hactions⟩

/-- What is read of a valid value can be written. -/
theorem isWritable_of_ofJson {value : Json} (hvalid : value.IsValid)
    (h : ofJson value = .ok asset) : asset.IsWritable :=
  decoder_yields value hvalid asset (mapError_eq_ok_iff.1 h)

/-- **An asset that is read of a valid value, written and read again is the same asset**, whether
it is written as a finished value, with the members of every object sorted, or in the order of the
form. The same holds of the text that it is printed as, if that text reads as the value that was
printed. In each case the graph that is built of it, or the fault that it has, is the same. -/
theorem written_form_reads_as_itself {value : Json} (hvalid : value.IsValid)
    (h : ofJson value = .ok asset) :
    (ofJson asset.toJson.sorted = .ok asset ∧
      Asset.ofJson asset.toJson.sorted = Asset.ofJson value) ∧
    (ofJson asset.toJson = .ok asset ∧ Asset.ofJson asset.toJson = Asset.ofJson value) ∧
    (Json.decodeText Json.anyValue asset.toJson.pretty = .ok asset.toJson →
      ofText asset.toJson.pretty = .ok asset ∧
      Asset.ofText asset.toJson.pretty = Asset.ofJson value) := by
  obtain ⟨hform, hsorted⟩ := decoder_reads (isWritable_of_ofJson hvalid h)
  have hsortedForm : ofJson asset.toJson.sorted = .ok asset :=
    mapError_eq_ok_iff.2 hsorted.decodeValue
  have hplainForm : ofJson asset.toJson = .ok asset := mapError_eq_ok_iff.2 hform.decodeValue
  refine ⟨⟨hsortedForm, ?_⟩, ⟨hplainForm, ?_⟩, fun hprinted => ?_⟩
  · rw [Asset.ofJson, Asset.ofJson, hsortedForm, h]
  · rw [Asset.ofJson, Asset.ofJson, hplainForm, h]
  · have htextForm : ofText asset.toJson.pretty = .ok asset :=
      mapError_eq_ok_iff.2 (hform.decodeText hprinted)
    refine ⟨htextForm, ?_⟩
    rw [Asset.ofText, Asset.ofJson, htextForm, h]

/-- A gate that says in passing that it is shut, and lets pass in the next frame who has gold
enough. Nothing is in the order in which it is written, and the variable is a plain literal. -/
def gate : Json :=
  .object [("variables", .object [("gold", .number (.integer 5))]), ("start", .string "gate"),
    ("name", .string "gate"),
    ("actions", .array [
      .object [("type", .string "log"), ("id", .string "gate"),
        ("params", .object [("message", .string "shut"), ("level", .string "warn")]),
        ("links", .array [.object [("yield", .bool true), ("to", .string "hall"),
          ("condition", .object [("type", .string "not"),
            ("condition", .object [("type", .string "var_compare_constant"),
              ("var", .string "gold"), ("op", .string "<"),
              ("value", .number (.integer 5))])])]])],
      .object [("id", .string "hall"), ("type", .string "end")]])]

def gateForm : AssetForm where
  name := "gate"
  start? := some "gate"
  bindings := Bindings.empty.set "gold" (.int 5)
  actions := [
    ⟨"gate", "log", .object [("level", .string "warn"), ("message", .string "shut")],
      [{ target := "hall", condition := .not (.constant "gold" .lt (.int 5)), yields := true }]⟩,
    ⟨"hall", "end", .null, []⟩]

/-- The gate as it is written: each value with its type, and what was left out. -/
def writtenGate : Json :=
  .object [("name", .string "gate"), ("start", .string "gate"),
    ("variables", .object [("gold", .object [("type", .string "int"),
      ("value", .number (.integer 5))])]),
    ("actions", .array [
      .object [("id", .string "gate"), ("type", .string "log"),
        ("params", .object [("level", .string "warn"), ("message", .string "shut")]),
        ("links", .array [.object [("to", .string "hall"),
          ("condition", .object [("type", .string "not"),
            ("condition", .object [("op", .string "<"), ("type", .string "var_compare_constant"),
              ("value", .object [("type", .string "int"), ("value", .number (.integer 5))]),
              ("var", .string "gold")])]),
          ("yield", .bool true)]])],
      .object [("id", .string "hall"), ("type", .string "end"), ("params", .null),
        ("links", .array [])]])]

theorem toJson_gateForm : gateForm.toJson = writtenGate := by cbv

/-- An asset with no more than a variable, whose value is a plain literal. -/
def purse : Json :=
  .object [("name", .string "purse"), ("variables", .object [("gold", .number (.integer 5))]),
    ("actions", .array [])]

def purseForm : AssetForm := ⟨"purse", none, Bindings.empty.set "gold" (.int 5), []⟩

def writtenPurse : Json :=
  .object [("name", .string "purse"), ("start", .null),
    ("variables", .object [("gold", .object [("type", .string "int"),
      ("value", .number (.integer 5))])]),
    ("actions", .array [])]

def purseText : String := "\x7b
  \"name\": \"purse\",
  \"start\": null,
  \"variables\": \x7b
    \"gold\": \x7b
      \"type\": \"int\",
      \"value\": 5
    \x7d
  \x7d,
  \"actions\": []
\x7d"

theorem pretty_writtenPurse : writtenPurse.pretty = purseText := by decide +kernel

theorem ofText_purseText :
    Json.Document.ofText purseText = ⟨Json.Reading.ofJson writtenPurse, false⟩ := by
  simp only [purseText, Json.Document.ofText, String.reduceToList, List.length_cons,
    List.length_nil]
  cbv

/-- The gate by its values, and the purse by its text. -/
theorem written_form_reads_as_itself_for_gate_and_purse :
    (ofJson gate = .ok gateForm ∧ ofJson writtenGate = .ok gateForm ∧
      ofJson writtenGate.sorted = .ok gateForm ∧ Asset.ofJson writtenGate = Asset.ofJson gate ∧
      ∃ asset, Asset.ofJson gate = .ok asset) ∧
    ofText purseText = .ok purseForm ∧ Asset.ofText purseText = Asset.ofJson purse := by
  constructor
  · have hvalid : gate.IsValid := by
      simp [gate, Json.IsValid, Json.MembersValid, Json.ItemsValid, Json.Number.IsValid]
    have hform : ofJson gate = .ok gateForm := rfl
    obtain ⟨⟨hsorted, -⟩, ⟨hwritten, hasset⟩, -⟩ := written_form_reads_as_itself hvalid hform
    rw [toJson_gateForm] at hsorted hwritten hasset
    exact ⟨hform, hwritten, hsorted, hasset, _, rfl⟩
  · have hvalid : purse.IsValid := by
      simp [purse, Json.IsValid, Json.MembersValid, Json.ItemsValid, Json.Number.IsValid]
    have hform : ofJson purse = .ok purseForm := rfl
    have hwritten : purseForm.toJson = writtenPurse := rfl
    obtain ⟨-, -, htext⟩ := written_form_reads_as_itself hvalid hform
    rw [hwritten, pretty_writtenPurse] at htext
    have hprinted : Json.decodeText Json.anyValue purseText = .ok writtenPurse := by
      rw [Json.decodeText, ofText_purseText]
      rfl
    exact htext hprinted

end AssetForm

end ActionGraph
