import TypstPress.Proofs.Markdown.WellFormed
import TypstPress.Proofs.Typst.Shown
import TypstPress.Proofs.Markdown.Encodable

/-!
# References of the reader resolve

A link or an image of the reader either has its url or names a definition by a
key, and the definitions follow the text. Keys are compared in lower case, and
both sides come to it on their own: the reference when its node is made, the
definition when it is collected, and the compiler looks one up among the other.

`Settles` is the relation that this comes down to. Tokens settle into tokens
that have the urls of their definitions instead of the keys, the nodes made of
them settle in the same way (`matches_blockNodesAll`), and such trees are set
alike. So a reading whose references all name a key compiles to what it
compiles to with the urls written out, and no reference is left over that would
be set as a text with brackets (`compile_settled`).
-/

/-! ## Nodes with urls in the places of references -/

namespace TypstPress

open Node

/-- The identifier that a link or an image refers to. -/
def Kind.reference? : Kind → Option String
  | .leaf (.imageReference identifier ..) => some identifier
  | .branch (.linkReference identifier ..) => some identifier
  | _ => none

/-- Whether the kind is none of a whole document, a definition or a reference. -/
def Kind.isSettled : Kind → Bool
  | .leaf (.definition ..) | .leaf (.imageReference ..) => false
  | .branch .document | .branch (.linkReference ..) => false
  | _ => true

theorem Kind.of_isSettled {k : Kind} (h : k.isSettled = true) :
    (!k.isDocument) = true ∧ (!k.isDefinition) = true ∧ k.reference? = none ∧
      ∀ url? url?', k.shown url? = k.shown url?' := by
  cases k with
  | leaf l =>
      cases l with
      | definition | imageReference => cases h
      | _ => exact ⟨rfl, rfl, rfl, fun _ _ => rfl⟩
  | branch k =>
      cases k with
      | document | linkReference => cases h
      | _ => exact ⟨rfl, rfl, rfl, fun _ _ => rfl⟩

/-- Kinds that are the same, but that a reference may have become a link or an
image with the url of its identifier. -/
inductive Kind.Settles (url? : String → Option Url) : Kind → Kind → Prop where
  | same {k : Kind} (h : k.isSettled = true) : Settles url? k k
  | link {identifier url : String} {label title : Option String} {form : ReferenceForm}
    (h : url? identifier = some (.text url)) :
    Settles url? (.branch (.linkReference identifier label form)) (.branch (.link url title))
  | image {identifier url altText : String} {label title : Option String} {form : ReferenceForm}
    {attributes : Attributes} (h : url? identifier = some (.text url)) :
    Settles url? (.leaf (.imageReference identifier label form altText attributes))
      (.leaf (.image url altText title attributes))

namespace Kind.Settles

variable {url? : String → Option Url}

theorem setAlike (url?' : String → Option Url) :
    Typst.SetAlike url? url?' (Kind.Settles url?) fun _ _ => True where
  shown h := by
    cases h with
    | same h => exact (Kind.of_isSettled h).2.2.2 _ _
    | link h => simp only [Kind.shown, Branch.shown, h]
    | image h => simp only [Kind.shown, Leaf.shown, h]
  noDocument h := by
    cases h with
    | same h => exact ⟨(Kind.of_isSettled h).1, (Kind.of_isSettled h).1⟩
    | link => exact ⟨rfl, rfl⟩
    | image => exact ⟨rfl, rfl⟩
  notTabular _ _ := trivial

theorem noDefinition {k k' : Kind} (h : k.Settles url? k') :
    (!k.isDefinition) = true ∧ (!k'.isDefinition) = true := by
  cases h with
  | same h => exact ⟨(Kind.of_isSettled h).2.1, (Kind.of_isSettled h).2.1⟩
  | link => exact ⟨rfl, rfl⟩
  | image => exact ⟨rfl, rfl⟩

theorem isSome_url? {k k' : Kind} (h : k.Settles url? k') :
    k.reference?.all (fun i => (url? i).isSome) = true ∧
      k'.reference?.all (fun i => (url? i).isSome) = true := by
  cases h with
  | same h => rw [(Kind.of_isSettled h).2.2.1]; exact ⟨rfl, rfl⟩
  | link h => exact ⟨by rw [reference?, Option.all_some, h]; rfl, rfl⟩
  | image h => exact ⟨by rw [reference?, Option.all_some, h]; rfl, rfl⟩

end Kind.Settles

/-- The link or the image to a url that stands for a reference. -/
def Node.withUrl (url : String) : Node → Node
  | .leaf (.imageReference _ _ _ altText attributes) m =>
    .leaf (.image url altText none attributes) m
  | .branch (.linkReference ..) cs m => .branch (.link url none) cs m
  | n => n

/-- A reference to a known url is set as a link or an image to it. -/
theorem Typst.fragments_withUrl {s : Setting} {n : Node} {identifier url : String}
    (hn : n.kind.reference? = some identifier)
    (hurl : s.definitions.url? identifier = some (.text url)) :
    fragments s n = fragments s (n.withUrl url) := by
  cases n with
  | leaf l m =>
      cases l with
      | imageReference =>
          cases hn
          simp only [withUrl, fragments, leafFragments, hurl]
      | _ => cases hn
  | branch k cs m =>
      cases k with
      | linkReference =>
          cases hn
          simp only [withUrl, fragments, hurl]
      | _ => cases hn

namespace Markdown

/-! ## Tokens with urls in the places of references -/

namespace LinkTable

/-- Whether a definition of the table goes by the key, up to its case. -/
def knows (table : LinkTable) (key : String) : Bool :=
  table.any fun entry => identifierOf entry.1 == identifierOf key

/-- Whether the table has the url for the key, up to the key's case. -/
def Gives (table : LinkTable) (key url : String) : Prop :=
  ∃ entry ∈ table, identifierOf entry.1 = identifierOf key ∧ entry.2.url = url

theorem exists_gives {table : LinkTable} {key : String} (h : table.knows key = true) :
    ∃ url, table.Gives key url := by
  obtain ⟨entry, hentry, hkey⟩ := List.any_eq_true.1 h
  exact ⟨entry.2.url, entry, hentry, beq_iff_eq.1 hkey, rfl⟩

/-- The urls of the table by identifier. -/
def urls (table : LinkTable) : List (String × Url) :=
  table.map fun entry => (identifierOf entry.1, entry.2.url)

/-- With one definition for each identifier, the url that is found for a key is
the one that the table has for it. -/
theorem lookup_urls {table : LinkTable} (hdistinct : (table.urls.map Prod.fst).Nodup)
    {key url : String} (h : table.Gives key url) :
    table.urls.lookup (identifierOf key) = some (.text url) := by
  obtain ⟨entry, hentry, hkey, rfl⟩ := h
  have hmem : (identifierOf key, .text entry.2.url) ∈ table.urls :=
    List.mem_map.2 ⟨entry, hentry, by rw [hkey]⟩
  generalize table.urls = urls at hdistinct hmem
  induction urls with
  | nil => cases hmem
  | cons first urls ih =>
      rw [List.map_cons, List.nodup_cons] at hdistinct
      rcases List.mem_cons.1 hmem with rfl | hmem
      · exact List.lookup_cons_self
      · have hne : identifierOf key ≠ first.1 := fun heq =>
          hdistinct.1 (heq ▸ List.mem_map_of_mem hmem)
        rw [List.lookup_cons, beq_false_of_ne hne]
        exact ih hdistinct.2 hmem

end LinkTable

/-- The key that a link or an image names instead of having a url. -/
def TokenKind.key? : TokenKind → Option String
  | .link (.reference key _) | .image (.reference key _) => some key
  | _ => none

/-- Kinds of tokens that are the same, but that a key may have become the url it
stands for. -/
inductive TokenKind.Settles (table : LinkTable) : TokenKind → TokenKind → Prop where
  | same {kind : TokenKind} (h : kind.key? = none) : Settles table kind kind
  | link {key url : String} {label title : Option String} (h : table.Gives key url) :
    Settles table (.link (.reference key label)) (.link (.url url title))
  | image {key url : String} {label title : Option String} (h : table.Gives key url) :
    Settles table (.image (.reference key label)) (.image (.url url title))

mutual

/-- Whether the keys of a token and of its descendants are keys of the table. -/
def Token.keysIn (table : LinkTable) : Token → Bool
  | .mk kind _ _ children => kind.key?.all table.knows && allKeysIn table children

/-- Whether the keys of several tokens and of their descendants are. -/
def allKeysIn (table : LinkTable) : List Token → Bool
  | [] => true
  | t :: ts => t.keysIn table && allKeysIn table ts

end

mutual

/-- The token with all keys replaced by the urls they stand for; titles are
free. -/
def Token.Settles (table : LinkTable) : Token → Token → Prop
  | .mk kind raw nested children, .mk kind' raw' nested' children' =>
    kind.Settles table kind' ∧ raw = raw' ∧ nested = nested' ∧ AllSettle table children children'

/-- The tokens with all keys replaced. -/
def AllSettle (table : LinkTable) : List Token → List Token → Prop
  | [], [] => True
  | t :: ts, t' :: ts' => t.Settles table t' ∧ AllSettle table ts ts'
  | _, _ => False

end

theorem TokenKind.exists_settles {table : LinkTable} {kind : TokenKind}
    (h : kind.key?.all table.knows = true) : ∃ kind', kind.Settles table kind' := by
  cases hkey : kind.key? with
  | none => exact ⟨kind, .same hkey⟩
  | some key =>
      rw [hkey] at h
      obtain ⟨url, hurl⟩ := LinkTable.exists_gives h
      cases kind with
      | link target =>
          cases target with
          | url => cases hkey
          | reference => cases hkey; exact ⟨.link (.url url none), .link hurl⟩
      | image target =>
          cases target with
          | url => cases hkey
          | reference => cases hkey; exact ⟨.image (.url url none), .image hurl⟩
      | _ => cases hkey

mutual

/-- Tokens whose keys the table knows can be settled. -/
theorem Token.exists_settles {table : LinkTable} (t : Token) (h : t.keysIn table = true) :
    ∃ t', t.Settles table t' := by
  match t with
  | .mk kind raw nested children =>
      rw [Token.keysIn, Bool.and_eq_true] at h
      obtain ⟨kind', hkind⟩ := TokenKind.exists_settles h.1
      obtain ⟨children', hchildren⟩ := exists_allSettle children h.2
      exact ⟨.mk kind' raw nested children', hkind, rfl, rfl, hchildren⟩

theorem exists_allSettle {table : LinkTable} (ts : List Token) (h : allKeysIn table ts = true) :
    ∃ ts', AllSettle table ts ts' := by
  match ts with
  | [] => exact ⟨[], trivial⟩
  | t :: ts =>
      rw [allKeysIn, Bool.and_eq_true] at h
      obtain ⟨t', ht⟩ := Token.exists_settles t h.1
      obtain ⟨ts', hts⟩ := exists_allSettle ts h.2
      exact ⟨t' :: ts', ht, hts⟩

end

theorem forall₂_of_allSettle {table : LinkTable} {ts ts' : List Token}
    (h : AllSettle table ts ts') : List.Forall₂ (Token.Settles table) ts ts' := by
  induction ts generalizing ts' with
  | nil =>
      cases ts' with
      | nil => exact .nil
      | cons t' ts' => exact h.elim
  | cons t ts ih =>
      cases ts' with
      | nil => exact h.elim
      | cons t' ts' => exact .cons h.1 (ih h.2)

section

variable {table : LinkTable}

/-- Kinds other than links and images stay as they are. -/
theorem TokenKind.Settles.beq_eq {kind kind' : TokenKind} (h : kind.Settles table kind')
    (other : TokenKind) (hlink : ∀ target, other ≠ .link target)
    (himage : ∀ target, other ≠ .image target) : (kind == other) = (kind' == other) := by
  cases h with
  | same => rfl
  | link => rw [beq_false_of_ne (hlink _).symm, beq_false_of_ne (hlink _).symm]
  | image => rw [beq_false_of_ne (himage _).symm, beq_false_of_ne (himage _).symm]

theorem Token.Settles.kind {t t' : Token} (h : t.Settles table t') :
    t.kind.Settles table t'.kind := by
  cases t
  cases t'
  exact h.1

theorem Token.Settles.children {t t' : Token} (h : t.Settles table t') :
    AllSettle table t.children t'.children := by
  cases t
  cases t'
  exact h.2.2.2

mutual

theorem plainText_settles {t t' : Token} (h : t.Settles table t') :
    t.plainText = t'.plainText := by
  match t, t', h with
  | .mk kind raw nested children, .mk kind' raw' nested' children',
      ⟨hkind, hraw, hnested, hchildren⟩ =>
      rw [Token.plainText, Token.plainText, ← hraw, ← hnested, plainTexts_settle hchildren,
        hkind.beq_eq .softbreak nofun nofun,
        hkind.beq_eq .linebreak nofun nofun]

theorem plainTexts_settle {ts ts' : List Token} (h : AllSettle table ts ts') :
    Token.plainText.plainTexts ts = Token.plainText.plainTexts ts' := by
  match ts, ts', h with
  | [], [], _ => rfl
  | t :: ts, t' :: ts', h =>
      rw [Token.plainText.plainTexts, Token.plainText.plainTexts, plainText_settles h.1,
        plainTexts_settle h.2]

end

/-! ## Nodes of settled tokens -/

/-- Only links and images settle into something else, and they give no
alignment. -/
theorem cellAlignments_settle {ts ts' : List Token} (h : AllSettle table ts ts') :
    cellAlignments ts = cellAlignments ts' := by
  match ts, ts', h with
  | [], [], _ => rfl
  | .mk kind raw nested children :: ts, .mk kind' raw' nested' children' :: ts',
      ⟨⟨hkind, _⟩, hrest⟩ =>
      have hrest := cellAlignments_settle hrest
      cases hkind with
      | same =>
          cases kind with
          | tableCell alignment => exact congrArg (alignment :: ·) hrest
          | _ => exact hrest
      | link => exact hrest
      | image => exact hrest

/-- The last head of a table settles into the last head. -/
theorem lastHead_settle {parts parts' : List Token} (h : AllSettle table parts parts') :
    Option.Rel (Token.Settles table) (parts.filter fun t => t.kind == .tableHead).getLast?
      (parts'.filter fun t => t.kind == .tableHead).getLast? := by
  have hheads : List.Forall₂ (Token.Settles table)
      (parts.filter fun t => t.kind == .tableHead)
      (parts'.filter fun t => t.kind == .tableHead) := by
    refine List.rel_filter ?_ (forall₂_of_allSettle h)
    intro t t' ht
    simp only [ht.kind.beq_eq .tableHead nofun nofun]
  rw [List.getLast?_eq_head?_reverse, List.getLast?_eq_head?_reverse]
  have hheads := List.rel_reverse hheads
  generalize (parts.filter fun t => t.kind == .tableHead).reverse = heads,
    (parts'.filter fun t => t.kind == .tableHead).reverse = heads' at hheads
  cases hheads with
  | nil => exact .none
  | cons hfirst _ => exact .some hfirst

end

/-- A lookup that finds the urls that the table has for its keys. -/
def LinkTable.FoundBy (table : LinkTable) (url? : String → Option Url) : Prop :=
  ∀ key url, table.Gives key url → url? (identifierOf key) = some (.text url)

section

variable {table : LinkTable} {url? : String → Option Url}

mutual

theorem matches_inlineNodes (hurl : table.FoundBy url?) {t t' : Token}
    (h : t.Settles table t') :
    MatchesAll (Kind.Settles url?) t.inlineNodes t'.inlineNodes := by
  match t, t', h with
  | .mk kind raw nested children, .mk kind' raw' nested' children',
      ⟨hkind, hraw, _, hchildren⟩ =>
      subst hraw
      have hinner := matches_inlineNodesAll hurl hchildren
      cases hkind with
      | link hgives => exact ⟨⟨.link (hurl _ _ hgives), hinner⟩, trivial⟩
      | image hgives =>
          refine ⟨?_, trivial⟩
          simp only [imageNode, plainTexts_settle hchildren]
          exact .image (hurl _ _ hgives)
      | same hkey =>
          cases kind with
          | strong | emphasis | strikethrough => exact ⟨⟨.same rfl, hinner⟩, trivial⟩
          | link target =>
              cases target with
              | url => exact ⟨⟨.same rfl, hinner⟩, trivial⟩
              | reference => cases hkey
          | image target =>
              cases target with
              | url =>
                  refine ⟨?_, trivial⟩
                  simp only [imageNode, plainTexts_settle hchildren]
                  exact .same rfl
              | reference => cases hkey
          | text | codespan | linebreak | softbreak | inlineHtml | inlineMath | blockMath
          | footnoteRef => exact ⟨.same rfl, trivial⟩
          | _ => exact trivial

theorem matches_inlineNodesAll (hurl : table.FoundBy url?) {ts ts' : List Token}
    (h : AllSettle table ts ts') :
    MatchesAll (Kind.Settles url?) (inlineNodesAll ts) (inlineNodesAll ts') := by
  match ts, ts', h with
  | [], [], _ => exact trivial
  | t :: ts, t' :: ts', h =>
      rw [inlineNodesAll, inlineNodesAll]
      exact (matches_inlineNodes hurl h.1).append (matches_inlineNodesAll hurl h.2)

end

theorem matches_cellNodes (hurl : table.FoundBy url?) {ts ts' : List Token}
    (h : AllSettle table ts ts') :
    MatchesAll (Kind.Settles url?) (cellNodes ts) (cellNodes ts') := by
  match ts, ts', h with
  | [], [], _ => exact trivial
  | .mk kind raw nested children :: ts, .mk kind' raw' nested' children' :: ts',
      ⟨⟨hkind, _, _, hchildren⟩, hrest⟩ =>
      have hrest := matches_cellNodes hurl hrest
      cases hkind with
      | same =>
          cases kind with
          | tableCell alignment =>
              exact ⟨⟨.same rfl, matches_inlineNodesAll hurl hchildren⟩, hrest⟩
          | _ => exact hrest
      | link => exact hrest
      | image => exact hrest

theorem matches_tableNode (hurl : table.FoundBy url?) {parts parts' : List Token}
    (h : AllSettle table parts parts') :
    (tableNode parts).Matches (Kind.Settles url?) (tableNode parts') := by
  have hrow : ∀ isHeader {row row' : Token}, row.Settles table row' →
      (Node.ofBranch (.tableRow isHeader) (cellNodes row.children)).Matches (Kind.Settles url?)
        (.ofBranch (.tableRow isHeader) (cellNodes row'.children)) :=
    fun isHeader _ _ hrow => ⟨.same rfl, matches_cellNodes hurl hrow.children⟩
  have hbody : MatchesAll (Kind.Settles url?) (bodyNodes parts) (bodyNodes parts') := by
    refine matchesAll_iff.2 (List.rel_flatMap (forall₂_of_allSettle h) ?_)
    intro part part' hpart
    simp only [hpart.kind.beq_eq .tableBody nofun nofun]
    split
    · refine List.rel_map ?_ (forall₂_of_allSettle hpart.children)
      intro row row' hrows
      exact hrow false hrows
    · exact .nil
  rw [tableNode, tableNode, headNode?, headNode?, tableAlignments, tableAlignments]
  have hhead := lastHead_settle h
  generalize (parts.filter fun t => t.kind == .tableHead).getLast? = head,
    (parts'.filter fun t => t.kind == .tableHead).getLast? = head' at hhead
  cases hhead with
  | none => exact ⟨.same rfl, hbody⟩
  | some hhead =>
      refine ⟨?_, hrow true hhead, hbody⟩
      simp only [Option.map_some, Option.isSome_some, cellAlignments_settle hhead.children]
      exact .same rfl

mutual

theorem matches_blockNodes (hurl : table.FoundBy url?) {t t' : Token}
    (h : t.Settles table t') :
    MatchesAll (Kind.Settles url?) t.blockNodes t'.blockNodes := by
  match t, t', h with
  | .mk kind raw nested children, .mk kind' raw' nested' children',
      ⟨hkind, hraw, _, hchildren⟩ =>
      subst hraw
      have hinlines := matches_inlineNodesAll hurl hchildren
      have hblocks := matches_blockNodesAll hurl hchildren
      cases hkind with
      | link => exact trivial
      | image => exact trivial
      | same hkey =>
          cases kind with
          | heading | paragraph | blockText | leafDirective =>
              exact ⟨⟨.same rfl, hinlines⟩, trivial⟩
          | blockCode info =>
              refine ⟨?_, trivial⟩
              simp only [codeNode]
              split <;> exact .same rfl
          | blockQuote | containerDirective => exact ⟨⟨.same rfl, hblocks⟩, trivial⟩
          | list => exact ⟨⟨.same rfl, matches_itemNodes hurl hchildren⟩, trivial⟩
          | table => exact ⟨matches_tableNode hurl hchildren, trivial⟩
          | thematicBreak | blockHtml | blockMath => exact ⟨.same rfl, trivial⟩
          | footnotes => exact matches_noteNodes hurl hchildren
          | typstDirective | blockError => exact ⟨⟨.same rfl, .same rfl, trivial⟩, trivial⟩
          | _ => exact trivial

theorem matches_blockNodesAll (hurl : table.FoundBy url?) {ts ts' : List Token}
    (h : AllSettle table ts ts') :
    MatchesAll (Kind.Settles url?) (blockNodesAll ts) (blockNodesAll ts') := by
  match ts, ts', h with
  | [], [], _ => exact trivial
  | t :: ts, t' :: ts', h =>
      rw [blockNodesAll, blockNodesAll]
      exact (matches_blockNodes hurl h.1).append (matches_blockNodesAll hurl h.2)

theorem matches_itemNodes (hurl : table.FoundBy url?) {ts ts' : List Token}
    (h : AllSettle table ts ts') :
    MatchesAll (Kind.Settles url?) (itemNodes ts) (itemNodes ts') := by
  match ts, ts', h with
  | [], [], _ => exact trivial
  | .mk kind raw nested children :: ts, .mk kind' raw' nested' children' :: ts',
      ⟨⟨hkind, _, _, hchildren⟩, hrest⟩ =>
      have hblocks := matches_blockNodesAll hurl hchildren
      have hrest := matches_itemNodes hurl hrest
      rw [itemNodes, itemNodes, hkind.beq_eq .listItem nofun nofun]
      split
      · exact ⟨⟨.same rfl, hblocks⟩, hrest⟩
      · exact hrest

theorem matches_noteNodes (hurl : table.FoundBy url?) {ts ts' : List Token}
    (h : AllSettle table ts ts') :
    MatchesAll (Kind.Settles url?) (noteNodes ts) (noteNodes ts') := by
  match ts, ts', h with
  | [], [], _ => exact trivial
  | .mk kind raw nested children :: ts, .mk kind' raw' nested' children' :: ts',
      ⟨⟨hkind, _, _, hchildren⟩, hrest⟩ =>
      have hblocks := matches_blockNodesAll hurl hchildren
      have hrest := matches_noteNodes hurl hrest
      unfold noteNodes
      -- a token that is no footnote has the empty key here, also when it is a link
      cases hkind with
      | same => exact ⟨⟨.same rfl, hblocks⟩, hrest⟩
      | link => exact ⟨⟨.same rfl, hblocks⟩, hrest⟩
      | image => exact ⟨⟨.same rfl, hblocks⟩, hrest⟩

end

end

/-! ## Documents -/

section

variable {tokens tokens' : List Token} {table : LinkTable}

/-- The document that tokens and definitions make up. -/
def tokenDocument (tokens : List Token) (table : LinkTable) (metadata : Metadata) : Node :=
  .branch .document (documentNodes tokens table) metadata

theorem withoutDefinitions_definitionNodes (table : LinkTable) :
    withoutDefinitions (definitionNodes table) = [] := by
  induction table with
  | nil => rfl
  | cons entry table ih =>
      rw [definitionNodes, List.map_cons, withoutDefinitions_cons_of_isDefinition rfl]
      exact ih

theorem withoutDefinitions_documentNodes (tokens : List Token) (table : LinkTable) :
    withoutDefinitions (documentNodes tokens table) =
      withoutDefinitions (blockNodesAll tokens) := by
  rw [documentNodes, withoutDefinitions_append, withoutDefinitions_definitionNodes,
    List.append_nil]

theorem filterMap_definition?_definitionNodes (table : LinkTable) :
    (preorderAll (definitionNodes table)).filterMap definition? = table.urls := by
  induction table with
  | nil => rfl
  | cons entry table ih =>
      rw [definitionNodes, List.map_cons, preorderAll, List.filterMap_append]
      exact congrArg ((identifierOf entry.1, Url.text entry.2.url) :: ·) ih

end

section

variable {table : LinkTable} {tokens tokens' : List Token}

/-- The lookup that a document of the reader is compiled with. -/
def LinkTable.url? (table : LinkTable) (identifier : String) : Option Url :=
  table.urls.lookup identifier

theorem LinkTable.foundBy_url? (hdistinct : (table.map fun entry => identifierOf entry.1).Nodup) :
    table.FoundBy table.url? := by
  intro key url hgives
  refine lookup_urls ?_ hgives
  rw [urls, List.map_map]
  exact hdistinct

/-- The blocks of the reader define nothing, so that the urls of the document are
those of the table. -/
theorem firstUrl?_tokenDocument (hfound : table.FoundBy table.url?)
    (hsettle : AllSettle table tokens tokens') (metadata : Metadata) :
    (tokenDocument tokens table metadata).firstUrl? = table.url? := by
  have hnone := (allOf_of_matchesAll (p := (!·.isDefinition)) (fun _ _ h => h.noDefinition)
    (matches_blockNodesAll hfound hsettle)).1
  funext identifier
  rw [firstUrl?, tokenDocument, preorder, List.filterMap_cons_none rfl, documentNodes,
    preorderAll_append, List.filterMap_append, filterMap_definition?_eq_nil hnone,
    filterMap_definition?_definitionNodes, LinkTable.url?, List.nil_append]

theorem exists_of_url? {identifier : String} {url : Url} (h : table.url? identifier = some url) :
    ∃ entry ∈ table, identifierOf entry.1 = identifier ∧ .text entry.2.url = url := by
  rw [LinkTable.url?, List.lookup_eq_some_iff] at h
  obtain ⟨before, after, hsplit, -⟩ := h
  have hmem : (identifier, url) ∈ table.urls := by
    rw [hsplit]
    exact List.mem_append_right _ List.mem_cons_self
  obtain ⟨entry, hentry, heq⟩ := List.mem_map.1 hmem
  exact ⟨entry, hentry, congrArg Prod.fst heq, congrArg Prod.snd heq⟩

/-- A node of the reader that refers to a definition refers to one of the table. -/
theorem isSome_url?_of_reference (hfound : table.FoundBy table.url?)
    (hsettle : AllSettle table tokens tokens') {metadata : Metadata} {n : Node}
    (hn : n ∈ (tokenDocument tokens table metadata).preorder) {identifier : String}
    (hreference : n.kind.reference? = some identifier) : (table.url? identifier).isSome = true := by
  let p (k : Kind) : Bool := k.reference?.all fun i => (table.url? i).isSome
  have hblocks : allOf p (blockNodesAll tokens) = true :=
    (allOf_of_matchesAll (fun _ _ h => h.isSome_url?) (matches_blockNodesAll hfound hsettle)).1
  have hdefinition : ∀ k : Kind, k.isDefinition = true → p k = true := by
    intro k hk
    obtain ⟨identifier, url, title, label, rfl⟩ := Kind.eq_definition hk
    rfl
  have hchildren : allOf p (documentNodes tokens table) = true := by
    rw [← allOf_withoutDefinitions hdefinition, withoutDefinitions_documentNodes,
      allOf_withoutDefinitions hdefinition, hblocks]
  have hkind := kind_of_all (all_of_mem_preorder (all_branch.2 ⟨rfl, hchildren⟩) hn)
  simp only [p, hreference, Option.all_some] at hkind
  exact hkind

/-- A node of the reader that refers to a definition is set as the link or the
image with the url of a definition of the table. -/
theorem exists_fragments_withUrl (options : TypstOptions) (hfound : table.FoundBy table.url?)
    (hsettle : AllSettle table tokens tokens') {metadata : Metadata} {n : Node}
    (hn : n ∈ (tokenDocument tokens table metadata).preorder) {identifier : String}
    (hreference : n.kind.reference? = some identifier) :
    ∃ entry ∈ table, identifierOf entry.1 = identifier ∧
      Typst.fragments (Typst.settingOf options (tokenDocument tokens table metadata)) n =
        Typst.fragments (Typst.settingOf options (tokenDocument tokens table metadata))
          (n.withUrl entry.2.url) := by
  obtain ⟨url, hurl⟩ :=
    Option.isSome_iff_exists.1 (isSome_url?_of_reference hfound hsettle hn hreference)
  obtain ⟨entry, hentry, hkey, rfl⟩ := exists_of_url? hurl
  refine ⟨entry, hentry, hkey, Typst.fragments_withUrl hreference ?_⟩
  rw [Typst.settingOf, Definitions.url?_collect, firstUrl?_tokenDocument hfound hsettle, hurl]

/-- Readings that settle compile to what they settle into, wherever the urls of
that are defined. -/
theorem compile_of_allSettle (options : TypstOptions) (hfound : table.FoundBy table.url?)
    (hsettle : AllSettle table tokens tokens') (table' : LinkTable) (metadata metadata' : Metadata)
    (compiled : Typst.Compiled) :
    (Typst.compile options (tokenDocument tokens table metadata)).result = .ok compiled ↔
      (Typst.compile options (tokenDocument tokens' table' metadata')).result = .ok compiled := by
  have hcontent : MatchesAll (Kind.Settles table.url?)
      (withoutDefinitions (tokenDocument tokens table metadata).children)
      (withoutDefinitions (tokenDocument tokens' table' metadata').children) := by
    rw [tokenDocument, children, withoutDefinitions_documentNodes, tokenDocument, children,
      withoutDefinitions_documentNodes]
    refine (matches_blockNodesAll hfound hsettle).withoutDefinitions ?_
    exact fun _ _ => (Kind.Settles.setAlike table.url?).isDefinition
  have halike : Typst.SetAlike table.url? (tokenDocument tokens' table' metadata').firstUrl?
      (Kind.Settles table.url?) fun _ _ => True := Kind.Settles.setAlike _
  rw [← firstUrl?_tokenDocument hfound hsettle metadata] at halike hcontent
  rcases Typst.compile_alike options halike rfl rfl hcontent with
    ⟨both, hboth, hboth'⟩ | ⟨d, d', -, hd, hd'⟩
  · rw [hboth, hboth']
  · simp only [hd, hd', reduceCtorEq]

/-- The references of the reader resolve: if each of them names a key of a table
that stays without repetition in lower case, the document compiles to what its
tokens compile to with the urls written out, and none of its references is set
in any other way than as a link or an image with a url of the table. -/
theorem references_resolve (options : TypstOptions)
    (hdistinct : (table.map fun entry => identifierOf entry.1).Nodup)
    (hkeys : allKeysIn table tokens = true) (metadata : Metadata) :
    (∃ tokens', AllSettle table tokens tokens') ∧
      (∀ tokens', AllSettle table tokens tokens' → ∀ table' metadata' compiled,
        (Typst.compile options (tokenDocument tokens table metadata)).result = .ok compiled ↔
          (Typst.compile options (tokenDocument tokens' table' metadata')).result =
            .ok compiled) ∧
      (allHaveAlignments tokens = true → ∃ compiled,
        (Typst.compile options (tokenDocument tokens table metadata)).result = .ok compiled) ∧
      ∀ n ∈ (tokenDocument tokens table metadata).preorder, ∀ identifier,
        n.kind.reference? = some identifier →
        ∃ entry ∈ table, identifierOf entry.1 = identifier ∧
          Typst.fragments (Typst.settingOf options (tokenDocument tokens table metadata)) n =
            Typst.fragments (Typst.settingOf options (tokenDocument tokens table metadata))
              (n.withUrl entry.2.url) := by
  have hfound := LinkTable.foundBy_url? hdistinct
  obtain ⟨settled, hsettled⟩ := exists_allSettle tokens hkeys
  refine ⟨⟨settled, hsettled⟩, ?_, ?_, ?_⟩
  · exact fun tokens' hsettle table' metadata' compiled =>
      compile_of_allSettle options hfound hsettle table' metadata metadata' compiled
  · exact fun halignments => Typst.compile_settable options
      (isSettable_documentNodes halignments table metadata)
  · exact fun n hn identifier hreference =>
      exists_fragments_withUrl options hfound hsettled hn hreference

/-- Tokens with a link around an image, both of them again in a cell and the link
in a footnote. -/
def linkedTokens (link image : Target) : List Token :=
  [.branch .paragraph
      [.branch (.link link) [.branch (.image image) [.ofText ['a', 'l', 't']]],
        .flat .footnoteRef "N"],
    .branch .table
      [.branch .tableHead
        [.branch (.tableCell none)
          [.branch (.link link) [], .branch (.image image) []]]],
    .branch .footnotes
      [.branch (.footnoteItem "N") [.branch .paragraph [.branch (.link link) []]]]]

/-- Definitions of the link and of the image, with keys of another case. -/
def linkedTable : LinkTable :=
  [("Go", { url := "u" }), ("PIC", { url := "v", title := some "t" })]

theorem allSettle_linkedTokens {link link' image image' : Target}
    (hlink : (TokenKind.link link).Settles table (.link link'))
    (himage : (TokenKind.image image).Settles table (.image image')) :
    AllSettle table (linkedTokens link image) (linkedTokens link' image') := by
  have hbranch : ∀ {kind kind' : TokenKind} {ts ts'}, kind.Settles table kind' →
      AllSettle table ts ts' → (Token.branch kind ts).Settles table (.branch kind' ts') :=
    fun hkind hts => ⟨hkind, rfl, rfl, hts⟩
  have hflat : ∀ {kind : TokenKind} {raw}, kind.key? = none →
      (Token.flat kind raw).Settles table (.flat kind raw) :=
    fun hkind => ⟨.same hkind, rfl, rfl, trivial⟩
  refine ⟨hbranch (.same rfl) ⟨?_, hflat rfl, trivial⟩, hbranch (.same rfl) ⟨?_, trivial⟩,
    hbranch (.same rfl) ⟨?_, trivial⟩, trivial⟩
  · exact hbranch hlink ⟨hbranch himage ⟨hflat rfl, trivial⟩, trivial⟩
  · refine hbranch (.same rfl) ⟨hbranch (.same rfl) ⟨?_, ?_, trivial⟩, trivial⟩
    · exact hbranch hlink trivial
    · exact hbranch himage trivial
  · exact hbranch (.same rfl) ⟨hbranch (.same rfl) ⟨hbranch hlink trivial, trivial⟩, trivial⟩

theorem references_resolve_linkedTokens :
    ∃ compiled,
      (Typst.compile {} (tokenDocument
        (linkedTokens (.reference "GO" (some "go")) (.reference "pic" none)) linkedTable
          [])).result = .ok compiled ∧
      (Typst.compile {} (tokenDocument
        (linkedTokens (.url "u" none) (.url "v" (some "other"))) [] [])).result =
          .ok compiled := by
  have hdistinct : (linkedTable.map fun entry => identifierOf entry.1).Nodup := by decide
  have hkeys : allKeysIn linkedTable
      (linkedTokens (.reference "GO" (some "go")) (.reference "pic" none)) = true := by decide
  have hresolve := references_resolve {} hdistinct hkeys []
  obtain ⟨compiled, hok⟩ := hresolve.2.2.1 (by decide)
  refine ⟨compiled, hok, (hresolve.2.1 _ (allSettle_linkedTokens ?_ ?_) [] [] compiled).1 hok⟩
  · exact .link ⟨_, List.mem_cons_self, by decide, rfl⟩
  · exact .image ⟨_, List.mem_cons_of_mem _ List.mem_cons_self, by decide, rfl⟩

end

end Markdown

end TypstPress
