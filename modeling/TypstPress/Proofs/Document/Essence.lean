import TypstPress.Proofs.Typst.Shown

/-!
# What nodes hold for others to see

Nodes carry more than ends up in a source: metadata, titles, the labels that
definitions were written with, whether a list is tight or a row a header,
attributes of images that are not passed on, attributes of directives. The
essence of a tree is the tree without them. Two trees differ in nothing but such
fields when they have one essence, and a program that does not consult them
treats a tree as it treats its essence.

The label of a reference is the one field that counts at times: it is shown when
the reference has no definition. So the essence leaves out the labels of known
identifiers only, and it is left open which are known.
-/

namespace TypstPress

/-! ## Attributes -/

namespace Attributes

/-- The attributes with the given names, each with its value or none. -/
def restricted (names : List String) (attributes : Attributes) : Attributes :=
  names.map fun name => (name, attributes.value? name)

theorem value?_restricted {names : List String} {name : String} (h : name ∈ names)
    (attributes : Attributes) :
    (attributes.restricted names).value? name = attributes.value? name := by
  induction names with
  | nil => cases h
  | cons first names ih =>
      rw [restricted, List.map_cons, value?, List.lookup_cons]
      by_cases hfirst : name = first
      · rw [hfirst, beq_self_eq_true]
        rfl
      · rw [beq_false_of_ne hfirst]
        exact ih ((List.mem_cons.1 h).resolve_left hfirst)

theorem restricted_congr {names : List String} {attributes attributes' : Attributes}
    (h : ∀ name ∈ names, attributes.value? name = attributes'.value? name) :
    attributes.restricted names = attributes'.restricted names :=
  List.map_congr_left fun name hname => by rw [h name hname]

theorem restricted_restricted (names : List String) (attributes : Attributes) :
    (attributes.restricted names).restricted names = attributes.restricted names :=
  restricted_congr fun _ hname => value?_restricted hname attributes

theorem value?_put (key name : String) (value : Option String) (attributes : Attributes) :
    (attributes.put key value).value? name =
      if name = key then value else attributes.value? name := by
  induction attributes with
  | nil =>
      rw [put, value?, List.lookup_cons]
      by_cases hname : name = key
      · rw [if_pos hname, hname, beq_self_eq_true]
        rfl
      · rw [if_neg hname, beq_false_of_ne hname]
        rfl
  | cons entry attributes ih =>
      obtain ⟨k, v⟩ := entry
      rw [put]
      by_cases hk : k = key
      · rw [if_pos (beq_iff_eq.2 hk), hk]
        by_cases hname : name = key
        · rw [if_pos hname, value?, List.lookup_cons, hname, beq_self_eq_true]
          rfl
        · rw [if_neg hname, value?, value?, List.lookup_cons, List.lookup_cons,
            beq_false_of_ne hname]
      · rw [if_neg (by simpa using hk)]
        by_cases hname : name = k
        · have hkey : name ≠ key := fun heq => hk (hname.symm.trans heq)
          rw [if_neg hkey, value?, value?, List.lookup_cons, List.lookup_cons, hname,
            beq_self_eq_true]
        · rw [value?, value?, List.lookup_cons, List.lookup_cons, beq_false_of_ne hname]
          exact ih

/-- New attributes have the same effect on attributes that agree so far. -/
theorem value?_update {name : String} {attributes attributes' : Attributes}
    (h : attributes.value? name = attributes'.value? name) (news : Attributes) :
    (attributes.update news).value? name = (attributes'.update news).value? name := by
  rw [update, update]
  induction news generalizing attributes attributes' with
  | nil => exact h
  | cons entry news ih =>
      rw [List.foldl_cons, List.foldl_cons]
      exact ih (by rw [value?_put, value?_put, h])

end Attributes

/-! ## Essences -/

variable (names : List String) (known : String → Bool)

/-- The leaf without titles, without attributes of images beside those with the
given names, and without labels of known identifiers. -/
def Leaf.essence : Leaf → Leaf
  | .definition identifier url _ _ => .definition identifier url none none
  | .image url altText _ attributes => .image url altText none (attributes.restricted names)
  | .imageReference identifier label form altText attributes =>
    .imageReference identifier (if known identifier then none else label) form altText
      (attributes.restricted names)
  | l => l

/-- The branch without titles, without labels of known identifiers, without
attributes of directives beside the caption of a figure, and without what the
layout of lists, rows and cells was written as. -/
def Branch.essence : Branch → Branch
  | .list ordered start _ => .list ordered start false
  | .tableRow _ => .tableRow false
  | .tableCell colspan rowspan suppressed _ => .tableCell colspan rowspan suppressed none
  | .containerDirective name attributes =>
    .containerDirective name (if name == "figure" then attributes.restricted ["caption"] else [])
  | .leafDirective name _ => .leafDirective name []
  | .link url _ => .link url none
  | .linkReference identifier label form =>
    .linkReference identifier (if known identifier then none else label) form
  | .textDirective name _ => .textDirective name []
  | k => k

namespace Node

mutual

/-- The tree without metadata and without any field that the source does not
depend on. -/
def essence : Node → Node
  | .leaf l _ => .leaf (l.essence names known) []
  | .branch k cs _ => .branch (k.essence known) (essences cs) []

/-- The essences of several trees. -/
def essences : List Node → List Node
  | [] => []
  | n :: ns => n.essence :: essences ns

end

theorem essences_eq_map (ns : List Node) :
    essences names known ns = ns.map (essence names known) := by
  induction ns with
  | nil => rw [essences, List.map_nil]
  | cons n ns ih => rw [essences, List.map_cons, ih]

end Node

variable {names} {known}

theorem Leaf.essence_essence (l : Leaf) :
    (l.essence names known).essence names known = l.essence names known := by
  cases l with
  | image url altText title attributes =>
      simp only [Leaf.essence, Attributes.restricted_restricted]
  | imageReference identifier label form altText attributes =>
      simp only [Leaf.essence, Attributes.restricted_restricted]
      split <;> rfl
  | _ => rfl

theorem Branch.essence_essence (k : Branch) :
    (k.essence known).essence known = k.essence known := by
  cases k with
  | containerDirective name attributes =>
      rw [Branch.essence, Branch.essence]
      split
      · rw [Attributes.restricted_restricted]
      · rfl
  | linkReference identifier label form =>
      rw [Branch.essence, Branch.essence]
      split <;> rfl
  | _ => rfl

/-! ### What an essence keeps -/

section

variable (names known)

theorem Branch.name_essence (k : Branch) : (k.essence known).name = k.name := by
  cases k <;> rfl

theorem Branch.acceptsChildren_essence (k : Branch) :
    (k.essence known).acceptsChildren = k.acceptsChildren := by
  cases k <;> rfl

theorem Branch.layout_essence (k : Branch) : (k.essence known).layout = k.layout := by
  cases k <;> rfl

theorem Node.kindName_essence (n : Node) : (n.essence names known).kindName = n.kindName := by
  cases n with
  | leaf l m => rw [Node.essence]; cases l <;> rfl
  | branch k cs m => rw [Node.essence]; exact k.name_essence known

theorem Node.isDocument_essence (n : Node) :
    (n.essence names known).isDocument = n.isDocument := by
  cases n with
  | leaf l m => rw [Node.essence]; rfl
  | branch k cs m => rw [Node.essence]; cases k <;> rfl

end

namespace Node

@[simp] theorem essence_leaf (l : Leaf) (m : Metadata) :
    (Node.leaf l m).essence names known = .leaf (l.essence names known) [] := by
  rw [essence]

@[simp] theorem essence_branch (k : Branch) (cs : List Node) (m : Metadata) :
    (Node.branch k cs m).essence names known =
      .branch (k.essence known) (essences names known cs) [] := by
  rw [essence]

mutual

theorem essence_essence (n : Node) :
    (n.essence names known).essence names known = n.essence names known := by
  match n with
  | .leaf l m => simp only [essence_leaf, Leaf.essence_essence]
  | .branch k cs m => simp only [essence_branch, Branch.essence_essence, essences_essences cs]

theorem essences_essences (ns : List Node) :
    essences names known (essences names known ns) = essences names known ns := by
  match ns with
  | [] => simp only [essences]
  | n :: ns => simp only [essences, essence_essence n, essences_essences ns]

end

mutual

theorem preorder_essence (n : Node) :
    (n.essence names known).preorder = n.preorder.map (essence names known) := by
  match n with
  | .leaf l m => rw [essence_leaf, preorder, preorder, List.map_singleton, essence_leaf]
  | .branch k cs m =>
      rw [essence_branch, preorder, preorder, List.map_cons, essence_branch,
        preorderAll_essences cs]

theorem preorderAll_essences (ns : List Node) :
    preorderAll (essences names known ns) = (preorderAll ns).map (essence names known) := by
  match ns with
  | [] => rw [essences, preorderAll, List.map_nil]
  | n :: ns =>
      rw [essences, preorderAll, preorderAll, List.map_append, preorder_essence n,
        preorderAll_essences ns]

end

end Node

/-! ## Definitions in an essence -/

namespace Definitions

variable (names known)

/-- The definitions with the essences of the footnotes. -/
def essence (d : Definitions) : Definitions where
  links := d.links
  notes := d.notes.map fun note => (note.1, Node.essences names known note.2)

theorem hasNote_essence (d : Definitions) (identifier : String) :
    (d.essence names known).hasNote identifier = d.hasNote identifier :=
  List.any_map

theorem collectNode_essence (d : Definitions) (n : Node) :
    (d.essence names known).collectNode (n.essence names known) =
      (d.collectNode n).essence names known := by
  cases n with
  | leaf l m =>
      cases l with
      | definition identifier url title label =>
          rw [Node.essence_leaf, Leaf.essence, collectNode, collectNode]
          have hurl : (d.essence names known).url? identifier = d.url? identifier := rfl
          rw [hurl]
          split <;> rfl
      | _ => rfl
  | branch k cs m =>
      cases k with
      | footnoteDefinition identifier =>
          have hkind : (Branch.footnoteDefinition identifier).essence known =
              .footnoteDefinition identifier := rfl
          rw [Node.essence_branch, hkind, collectNode, collectNode, hasNote_essence]
          split
          · rfl
          · simp only [essence, List.map_append, List.map_cons, List.map_nil]
      | _ => rfl

/-- Collecting from an essence gives the same definitions, with the essences of
the footnotes. -/
theorem collect_essence (tree : Node) :
    collect (tree.essence names known) = (collect tree).essence names known := by
  have hfoldl : ∀ (ns : List Node) (d : Definitions),
      (ns.map (Node.essence names known)).foldl collectNode (d.essence names known) =
        (ns.foldl collectNode d).essence names known := by
    intro ns
    induction ns with
    | nil => exact fun _ => rfl
    | cons n ns ih =>
        intro d
        rw [List.map_cons, List.foldl_cons, List.foldl_cons, collectNode_essence, ih]
  rw [collect_eq, collect_eq, Node.preorder_essence]
  exact hfoldl tree.preorder {}

end Definitions

theorem Node.firstUrl?_essence (tree : Node) (identifier : String) :
    (tree.essence names known).firstUrl? identifier = tree.firstUrl? identifier := by
  rw [← Definitions.url?_collect, ← Definitions.url?_collect, Definitions.collect_essence]
  rfl

end TypstPress
