import ActionGraph.Asset.Draft
import ActionGraph.Condition.Form

/-!
# The written form of an asset

An asset is written as an object with its `name`, its `start`, its `variables` and its `actions`,
each of these with its `links`. What may be left out has a default: an action without parameters has
null, and a link without a condition always holds. A form is read whether or not the graph that it
describes is sound; `Asset.ofForm` decides that.
-/

namespace ActionGraph

open Json (DecodeError Field)

/-- Values under variable names, in the order of the names. -/
structure Bindings where
  entries : List (String × Value)
  sorted : Table.IsSorted entries

namespace Bindings

def empty : Bindings := ⟨[], List.Pairwise.nil⟩

def set (b : Bindings) (name : String) (value : Value) : Bindings :=
  ⟨Table.insert b.entries name value, Table.isSorted_insert b.sorted name value⟩

def toJson (b : Bindings) : Json :=
  .object (b.entries.map fun (name, value) => (name, value.toJson))

end Bindings

/-- An action as it is written. -/
structure ActionForm where
  id : ActionId
  type : String
  /-- The parameters, sorted. -/
  params : Json
  links : List Link

/-- An asset as it is written. -/
structure AssetForm where
  name : String
  start? : Option ActionId
  bindings : Bindings
  actions : List ActionForm

/-! ### Reading -/

def Link.form : Json.Record Link where
  title := "struct FlowLink"
  fields := [
    Field.of "to" true Json.Decoder.string fun target link => { link with target := target },
    Field.of "condition" false Condition.decoder fun c link => { link with condition := c },
    Field.of "yield" false Json.Decoder.boolean fun b link => { link with yields := b }]
  initial := { target := "" }

def ActionForm.form : Json.Record ActionForm where
  title := "struct ActionConfig"
  fields := [
    Field.of "id" true Json.Decoder.string fun id form => { form with id := id },
    Field.of "type" true Json.Decoder.string fun type form => { form with type := type },
    Field.of "params" false Json.Decoder.sorted fun params form => { form with params := params },
    Field.of "links" false Link.form.decoder.list fun links form => { form with links := links }]
  initial := ⟨"", "", .null, []⟩

def AssetForm.form : Json.Record AssetForm where
  title := "struct FlowAssetConfig"
  fields := [
    Field.of "name" true Json.Decoder.string fun name form => { form with name := name },
    Field.of "start" false Json.Decoder.string.optional fun start? form =>
      { form with start? := start? },
    Field.of "variables" false (Value.decoder.table Bindings.set .empty) fun bindings form =>
      { form with bindings := bindings },
    Field.of "actions" true ActionForm.form.decoder.list fun actions form =>
      { form with actions := actions }]
  initial := ⟨"", none, .empty, []⟩

/-! ### Writing -/

def Link.toJson (link : Link) : Json :=
  .object [("to", .string link.target), ("condition", link.condition.toJson),
    ("yield", .bool link.yields)]

namespace ActionForm

def toJson (form : ActionForm) : Json :=
  .object [("id", .string form.id), ("type", .string form.type), ("params", form.params),
    ("links", .array (form.links.map Link.toJson))]

end ActionForm

namespace AssetForm

def toJson (form : AssetForm) : Json :=
  .object [("name", .string form.name), ("start", .ofOption form.start?),
    ("variables", form.bindings.toJson), ("actions", .array (form.actions.map ActionForm.toJson))]

def ofText (text : String) : Except FlowFault AssetForm :=
  (Json.decodeText form.decoder text).mapError (.asset ∘ .badText)

def ofJson (value : Json) : Except FlowFault AssetForm :=
  (Json.decodeValue form.decoder value).mapError (.asset ∘ .badValue)

def toDraft (form : AssetForm) : Draft :=
  let bare : Draft := { Draft.new form.name with start? := form.start? }
  let bound := form.bindings.entries.foldl (fun d (name, value) => d.setVariable name value) bare
  form.actions.foldl (fun d action =>
    action.links.foldl (fun d link => d.addLink action.id link)
      (d.addAction action.id action.type action.params)) bound

end AssetForm

namespace Asset

def ofForm (form : AssetForm) : Except FlowFault Asset := form.toDraft.build

def ofText (text : String) : Except FlowFault Asset := do ofForm (← AssetForm.ofText text)

def ofJson (value : Json) : Except FlowFault Asset := do ofForm (← AssetForm.ofJson value)

end Asset

end ActionGraph
