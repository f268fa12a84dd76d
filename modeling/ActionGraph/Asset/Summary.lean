import ActionGraph.Asset.Form

/-!
# Summaries

A summary shows the graph of an asset to a reader: its actions and links, without parameters, and
its variables as messages show them.
-/

namespace ActionGraph

def Link.summary (link : Link) : Json :=
  .object [("to", .string link.target), ("yield", .bool link.yields),
    ("condition", link.condition.toValue)]

def Descriptor.summary (d : Descriptor) : Json :=
  .object [("id", .string d.id), ("type", .string d.type),
    ("links", .array (d.links.map Link.summary))]

def Asset.summary (a : Asset) : Json :=
  .object [("name", .string a.name), ("start", .ofOption a.start?),
    ("variables", .array (a.bindings.toList.map fun (name, value) =>
      .array [.string name, .string value.text])),
    ("actions", .array (a.actions.map Descriptor.summary))]

end ActionGraph
