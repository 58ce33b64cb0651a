import TypstPress.Proofs.Transform.Arranged
import TypstPress.Proofs.Transform.AttributeGrammar

/-!
# Blocks between neighbours

`moveBlocks` goes through a list of children and changes two of them at a time.
What becomes of a child can be told without going: it depends on the child and
on the two that stood beside it at the start. An image takes the block of the
text after it, a text gives its block to the image before it, and everything
else stays (`between`). The two descriptions agree because no node is an image
and a text at once, so that the text that has just given its block away takes
none, and the walk may go on behind it (`moveBlocks_eq`).

A text that was nothing but a block is used up. Lists, tables and rows do not
let it be removed, and by then the blocks have been moved already
(`attach_refused`).
-/

namespace TypstPress.ImageAttributes

open AttributeBlock

/-! ## What passes between two nodes -/

/-- Whether the node is an image, with an address or by reference. -/
def isImage : Node → Bool
  | .leaf (.image ..) _ | .leaf (.imageReference ..) _ => true
  | _ => false

/-- The block at the start of a text and what stands behind it. -/
def block? : Node → Option (Attributes × String)
  | .leaf (.text content) _ => parse content
  | _ => none

def withText (content : String) : Node → Node
  | .leaf (.text _) m => .leaf (.text content) m
  | n => n

/-- An image with attributes added to its own, the new ones over the old. -/
def withAttributes (attributes : Attributes) : Node → Node
  | .leaf (.image url altText title old) m =>
    .leaf (.image url altText title (old.update attributes)) m
  | .leaf (.imageReference identifier label form altText old) m =>
    .leaf (.imageReference identifier label form altText (old.update attributes)) m
  | n => n

/-- The block that passes from a node to the one before it: the latter has to be
an image. -/
def passed? (left? : Option Node) (n : Node) : Option (Attributes × String) :=
  if left?.any isImage then block? n else none

/-- What becomes of a node between its neighbours. -/
def between (left? right? : Option Node) (n : Node) : Node :=
  match passed? left? n, right?.bind (passed? (some n)) with
  | some (_, remaining), _ => withText remaining n
  | none, some (attributes, _) => withAttributes attributes n
  | none, none => n

/-- Whether a node is left empty between its neighbours. -/
def isUsedUp (left? : Option Node) (n : Node) : Bool :=
  (passed? left? n).any fun passed => passed.2.isEmpty

/-- What becomes of the nodes of a list behind a node. -/
def outcomes (left? : Option Node) : List Node → List Child
  | [] => []
  | n :: ns =>
    { node := between left? ns.head? n, usedUp := isUsedUp left? n } :: outcomes (some n) ns

theorem text_of_block? {n : Node} {block : Attributes × String} (h : block? n = some block) :
    ∃ content m, n = .leaf (.text content) m ∧ parse content = some block := by
  unfold block? at h
  split at h
  · next content m => exact ⟨content, m, rfl, h⟩
  · cases h

theorem isImage_of_block? {n : Node} {block : Attributes × String} (h : block? n = some block) :
    isImage n = false := by
  obtain ⟨content, m, rfl, -⟩ := text_of_block? h
  rfl

/-- A text is no image, so it takes nothing from the node after it. -/
theorem passed?_of_block? {n next : Node} {block : Attributes × String}
    (h : block? n = some block) : passed? (some n) next = none := by
  rw [passed?, Option.any_some, isImage_of_block? h]
  rfl

theorem passed?_none (n : Node) : passed? none n = none := rfl

theorem addTo?_eq (attributes : Attributes) (n : Node) :
    addTo? attributes n = if isImage n then some (withAttributes attributes n) else none := by
  unfold addTo?
  split
  · rfl
  · rfl
  · next himage hreference =>
      have hnot : isImage n = false := by
        unfold isImage
        split
        · exact absurd rfl (himage _ _ _ _ _)
        · exact absurd rfl (hreference _ _ _ _ _ _)
        · rfl
      rw [hnot]
      rfl

theorem splitText?_eq (n : Node) :
    splitText? n = (block? n).map fun block => (block.1, block.2, withText block.2 n) := by
  cases n with
  | branch k cs m => rfl
  | leaf l m =>
      cases l with
      | text content => rfl
      | _ => rfl

/-! ## The walk through a list -/

/-- One step of the walk, with what passes between the first two children. -/
theorem moveBlocks_cons_cons (n next : Node) (rest : List Node) :
    (moveBlocks (n :: next :: rest)).1 =
      match passed? (some n) next with
      | some (attributes, remaining) =>
        { node := withAttributes attributes n } ::
          { node := withText remaining next, usedUp := remaining.isEmpty } :: (moveBlocks rest).1
      | none => { node := n } :: (moveBlocks (next :: rest)).1 := by
  rw [moveBlocks, splitText?_eq, passed?, Option.any_some]
  cases hblock : block? next with
  | none =>
      rw [ite_self]
      rfl
  | some block =>
      dsimp only [Option.map_some]
      rw [addTo?_eq]
      cases isImage n with
      | true => rfl
      | false => rfl

/-- The walk does to each child what its neighbours call for, provided that the
node before the list leaves the first one alone. -/
theorem moveBlocks_eq {left? : Option Node} {cs : List Node}
    (h : ∀ n ∈ cs.head?, passed? left? n = none) : (moveBlocks cs).1 = outcomes left? cs := by
  induction cs using List.twoStepInduction generalizing left? with
  | nil => rfl
  | singleton n =>
      have hn := h n rfl
      simp [moveBlocks, outcomes, between, isUsedUp, hn]
  | cons_cons n next rest ihrest ihnext =>
      have hn := h n rfl
      rw [moveBlocks_cons_cons, outcomes, isUsedUp, hn, between, hn, List.head?_cons,
        Option.bind_some]
      cases hpassed : passed? (some n) next with
      | none =>
          have hnext : ∀ n' ∈ (next :: rest).head?, passed? (some n) n' = none := by
            rintro n' ⟨⟩
            exact hpassed
          rw [ihnext next hnext]
          rfl
      | some passed =>
          -- the text takes nothing in its turn, so the walk may start afresh behind it
          have hblock : block? next = some passed := by
            rw [passed?] at hpassed
            split at hpassed
            · exact hpassed
            · cases hpassed
          have hrest : ∀ n' ∈ rest.head?, passed? (some next) n' = none := fun n' _ =>
            passed?_of_block? hblock
          rw [ihrest hrest, outcomes, isUsedUp, between, hpassed]
          rfl

theorem moveBlocks_eq_outcomes (cs : List Node) : (moveBlocks cs).1 = outcomes none cs :=
  moveBlocks_eq fun n _ => passed?_none n

/-- The node that stands before a place in a list. -/
def before (left? : Option Node) (cs : List Node) : Nat → Option Node
  | 0 => left?
  | i + 1 => cs[i]?

theorem outcomes_getElem? (left? : Option Node) (cs : List Node) (i : Nat) :
    (outcomes left? cs)[i]? = cs[i]?.map fun n =>
      { node := between (before left? cs i) cs[i + 1]? n
        usedUp := isUsedUp (before left? cs i) n } := by
  induction cs generalizing left? i with
  | nil => rfl
  | cons n ns ih =>
      cases i with
      | zero =>
          rw [outcomes, List.head?_eq_getElem?]
          rfl
      | succ i =>
          rw [outcomes, List.getElem?_cons_succ, ih]
          cases i with
          | zero => rfl
          | succ i => rfl

/-! ## Texts that are used up -/

/-- Whether a list has an image with a text after it that is a block and nothing
else. -/
def HoldsWholeBlock (cs : List Node) : Prop :=
  ∃ ahead image content m behind items,
    cs = ahead ++ image :: .leaf (.text content) m :: behind ∧
      isImage image = true ∧ IsBlock content items ""

theorem HoldsWholeBlock.two_le_length {cs : List Node} (h : HoldsWholeBlock cs) :
    2 ≤ cs.length := by
  obtain ⟨ahead, image, content, m, behind, items, rfl, -, -⟩ := h
  simp only [List.length_append, List.length_cons]
  omega

theorem isUsedUp_iff {left n : Node} :
    isUsedUp (some left) n = true ↔
      isImage left = true ∧ ∃ content m items, n = .leaf (.text content) m ∧
        IsBlock content items "" := by
  rw [isUsedUp, passed?, Option.any_some]
  constructor
  · intro h
    cases himage : isImage left with
    | false =>
        rw [himage] at h
        cases h
    | true =>
        rw [himage, if_pos rfl] at h
        cases hblock : block? n with
        | none =>
            rw [hblock] at h
            cases h
        | some block =>
            obtain ⟨content, m, rfl, hparse⟩ := text_of_block? hblock
            obtain ⟨items, hitems, -⟩ := exists_isBlock_of_parse hparse
            rw [hblock, Option.any_some, String.isEmpty_iff] at h
            rw [h] at hitems
            exact ⟨rfl, content, m, items, rfl, hitems⟩
  · rintro ⟨himage, content, m, items, rfl, hblock⟩
    rw [himage, if_pos rfl, block?, parse_of_isBlock hblock]
    rfl

theorem holdsWholeBlock_cons_cons {left n : Node} {ns : List Node} :
    HoldsWholeBlock (left :: n :: ns) ↔
      isUsedUp (some left) n = true ∨ HoldsWholeBlock (n :: ns) := by
  rw [isUsedUp_iff]
  constructor
  · rintro ⟨ahead, image, content, m, behind, items, hcs, himage, hblock⟩
    cases ahead with
    | nil =>
        cases hcs
        exact .inl ⟨himage, content, m, items, rfl, hblock⟩
    | cons first ahead =>
        obtain ⟨-, hcs⟩ := List.cons.inj hcs
        exact .inr ⟨ahead, image, content, m, behind, items, hcs, himage, hblock⟩
  · rintro (⟨himage, content, m, items, rfl, hblock⟩ |
      ⟨ahead, image, content, m, behind, items, hcs, himage, hblock⟩)
    · exact ⟨[], left, content, m, ns, items, rfl, himage, hblock⟩
    · exact ⟨left :: ahead, image, content, m, behind, items, congrArg (left :: ·) hcs, himage,
        hblock⟩

theorem any_usedUp_behind_iff {left : Node} {cs : List Node} :
    (outcomes (some left) cs).any (·.usedUp) = true ↔ HoldsWholeBlock (left :: cs) := by
  induction cs generalizing left with
  | nil =>
      refine ⟨nofun, fun h => ?_⟩
      have hlength := h.two_le_length
      rw [List.length_singleton] at hlength
      omega
  | cons n ns ih =>
      rw [outcomes, List.any_cons, Bool.or_eq_true, ih, holdsWholeBlock_cons_cons]

theorem any_usedUp_iff {cs : List Node} :
    (outcomes none cs).any (·.usedUp) = true ↔ HoldsWholeBlock cs := by
  cases cs with
  | nil =>
      refine ⟨nofun, fun h => ?_⟩
      have hlength := h.two_le_length
      rw [List.length_nil] at hlength
      omega
  | cons n ns =>
      -- nothing stands before the first child, so it is not used up
      exact any_usedUp_behind_iff

/-- Branches that hold their children do not hold the texts that blocks are. -/
theorem not_holdsWholeBlock {k : Branch} {cs : List Node} (hk : k.acceptsChildren = false)
    (h : ∀ c ∈ cs, k.holds c.kind = true) : ¬ HoldsWholeBlock cs := by
  rintro ⟨ahead, image, content, m, behind, items, rfl, -, -⟩
  have htext := h (.leaf (.text content) m) (by simp)
  rw [Node.kind, Branch.not_holds_leaf hk] at htext
  cases htext

/-! ## One container -/

theorem attach_of_refused {k : Branch} {cs : List Node} (hk : k.acceptsChildren = false)
    (h : HoldsWholeBlock cs) (m : Metadata) :
    attach (.branch k cs m) =
      { tree := .branch k ((outcomes none cs).map (·.node)) m, refusal := some k.name } := by
  rw [attach]
  dsimp only
  rw [moveBlocks_eq_outcomes, if_pos (any_usedUp_iff.2 h), hk]
  rfl

theorem attach_of_accepted {k : Branch} {cs : List Node}
    (h : ¬ (k.acceptsChildren = false ∧ HoldsWholeBlock cs)) (m : Metadata) :
    (attach (.branch k cs m)).tree = .branch k (moved cs) m ∧
      (attach (.branch k cs m)).refusal = none := by
  rw [attach, moved]
  dsimp only
  cases hused : (moveBlocks cs).1.any (·.usedUp) with
  | true =>
      cases hk : k.acceptsChildren with
      | true => exact ⟨rfl, rfl⟩
      | false =>
          rw [moveBlocks_eq_outcomes, any_usedUp_iff] at hused
          exact absurd ⟨hk, hused⟩ h
  | false =>
      have hall : (moveBlocks cs).1.filter (!·.usedUp) = (moveBlocks cs).1 := by
        simpa using hused
      rw [hall]
      exact ⟨rfl, rfl⟩

theorem refusal_attach_branch (k : Branch) (cs : List Node) (m : Metadata) (kindName : String) :
    (attach (.branch k cs m)).refusal = some kindName ↔
      kindName = k.name ∧ k.acceptsChildren = false ∧ HoldsWholeBlock cs := by
  by_cases hrefused : k.acceptsChildren = false ∧ HoldsWholeBlock cs
  · rw [attach_of_refused hrefused.1 hrefused.2, Option.some.injEq, eq_comm]
    exact (and_iff_left hrefused).symm
  · rw [(attach_of_accepted hrefused m).2]
    exact ⟨nofun, fun h => absurd h.2 hrefused⟩

/-- Which containers refuse, and what a refusal leaves behind. A list, a table or
a row refuses if an image in it has a text after it that is a block and nothing
else, so none does that holds what it should. All children are still there, and
what has become of them is what becomes of them between their neighbours. -/
theorem attach_refused (container : Node) :
    (∀ kindName, (attach container).refusal = some kindName ↔
      ∃ k cs m, container = .branch k cs m ∧ kindName = k.name ∧ k.acceptsChildren = false ∧
        HoldsWholeBlock cs) ∧
    (∀ k cs m, container = .branch k cs m → (∀ c ∈ cs, k.holds c.kind = true) →
      (attach container).refusal = none) ∧
    ((attach container).refusal ≠ none →
      (attach container).tree.kind = container.kind ∧
        (attach container).tree.metadata = container.metadata ∧
        ∀ i, (attach container).tree.children[i]? =
          container.children[i]?.map
            (between (before none container.children i) container.children[i + 1]?)) := by
  cases container with
  | leaf l m =>
      refine ⟨fun kindName => ⟨nofun, ?_⟩, nofun, fun h => absurd rfl h⟩
      rintro ⟨k, cs, m', hbranch, -⟩
      cases hbranch
  | branch k cs m =>
      refine ⟨fun kindName => ?_, ?_, fun h => ?_⟩
      · rw [refusal_attach_branch]
        constructor
        · intro h
          exact ⟨k, cs, m, rfl, h⟩
        · rintro ⟨k', cs', m', hbranch, h⟩
          cases hbranch
          exact h
      · rintro k' cs' m' hbranch hholds
        cases hbranch
        exact (attach_of_accepted (fun h => not_holdsWholeBlock h.1 hholds h.2) m).2
      · obtain ⟨kindName, hrefusal⟩ := Option.ne_none_iff_exists'.1 h
        obtain ⟨-, hk, hwhole⟩ := (refusal_attach_branch k cs m kindName).1 hrefusal
        rw [attach_of_refused hk hwhole]
        refine ⟨rfl, rfl, fun i => ?_⟩
        rw [Node.children, Node.children, List.getElem?_map, outcomes_getElem?, Option.map_map]
        rfl

/-- A list that holds an image and a text in the places of items. -/
def listOfImage : Node :=
  .ofBranch (.list false none true)
    [.ofLeaf (.image "u" "" none []), .ofText "\x7ba\x7d", .ofBranch .listItem []]

theorem isBlock_bare : IsBlock "\x7ba\x7d" [.bare ['a']] "" where
  nonempty := List.cons_ne_nil _ _
  written := by simp [Item.IsWritten, Unmarked]
  allowed := by simp [Allowed, blockChars, itemsChars, Item.chars, isForbidden]
  text_eq := by decide

theorem parse_bare : parse "\x7ba\x7d" = some ([("a", none)], "") := by
  rw [parse_of_isBlock isBlock_bare]
  decide

theorem holdsWholeBlock_listOfImage : HoldsWholeBlock listOfImage.children :=
  ⟨[], _, _, _, _, _, rfl, rfl, isBlock_bare⟩

/-- The image has the attribute and the text is empty, though both stay. -/
theorem attach_refused_of_list :
    (attach listOfImage).refusal = some "List" ∧
      (attach listOfImage).tree.children[0]? =
        some (.ofLeaf (.image "u" "" none [("a", none)])) ∧
      (attach listOfImage).tree.children[1]? = some (.ofText "") ∧
      (attach listOfImage).tree.children[2]? = some (.ofBranch .listItem []) := by
  obtain ⟨hrefuses, -, hleft⟩ := attach_refused listOfImage
  have hrefusal : (attach listOfImage).refusal = some "List" :=
    (hrefuses "List").2 ⟨_, _, _, rfl, rfl, rfl, holdsWholeBlock_listOfImage⟩
  have hplaces := (hleft (by simp [hrefusal])).2.2
  refine ⟨hrefusal, ?_⟩
  rw [hplaces, hplaces, hplaces]
  simp [listOfImage, Node.ofBranch, Node.ofLeaf, Node.ofText, Node.children, before, between,
    passed?, isImage, block?, parse_bare, withText, withAttributes, Attributes.update,
    Attributes.put]

/-- A refusal does not take back the blocks that were moved. -/
theorem refused_list_is_changed :
    ¬ ∀ container, (attach container).refusal ≠ none → (attach container).tree = container := by
  intro h
  have hrefused : attach listOfImage =
      { tree := .branch (.list false none true)
          ((outcomes none listOfImage.children).map (·.node)) []
        refusal := some "List" } :=
    attach_of_refused rfl holdsWholeBlock_listOfImage []
  have hsame := h listOfImage (by simp [hrefused])
  have hattributes := congrArg (fun n => n.children[0]?) (hrefused ▸ hsame)
  simp [listOfImage, Node.ofBranch, Node.ofLeaf, Node.ofText, Node.children, outcomes, between,
    passed?, isImage, block?, parse_bare, withAttributes, Attributes.update, Attributes.put]
    at hattributes

end TypstPress.ImageAttributes
