import TypstPress.Proofs.Typst.Length
import TypstPress.Proofs.Typst.Run

/-!
# Reading the literals of a source

Where a source says something it does so in a string literal. A scan from the
left finds the literals by their quotes and decodes them on the way; what it
has to remember is what the closed ones said and how much of the open one was
read.

Two facts carry all else. A piece without quotes is read from outside to
outside and says nothing (`advance_plain`), and what `escape` makes of a text is
read inside a literal as that text, whatever the text is, since a scan follows
literals (`readsLiteral`). So two texts that are escaped alike are the same.
-/

namespace TypstPress.Typst

/-- How far a source has been read: what the literals up to here said, and the
part of an open literal that was read, if one is open. -/
inductive Scan where
  | outside (said : List String)
  | inside (said : List String) (current : List Char)
  | escaped (said : List String) (current : List Char)
deriving DecidableEq

/-- The scan behind one more character. -/
def Scan.step : Scan → Char → Scan
  | outside said, c => if c = '"' then inside said [] else outside said
  | inside said current, c =>
    if c = '"' then outside (said ++ [String.ofList current])
    else if c = '\\' then escaped said current
    else inside said (current ++ [c])
  | escaped said current, c => inside said (current ++ [unescapeChar c])

/-- What the literals of a source say, in order; nothing if one is not closed. -/
def literals (source : String) : Option (List String) :=
  match advance Scan.step (.outside []) source with
  | .outside said => some said
  | _ => none

example : literals "#emph[#\"a\\\"] #b\"]#\"\\n\"" = some ["a\"] #b", "\n"] := by decide

namespace Scan

theorem advance_plain {s : String} (h : Plain s) (said : List String) :
    advance step (outside said) s = outside said :=
  foldl_of_forall_eq fun _ hc => if_neg (ne_of_mem_of_not_mem hc h)

theorem readsLiteral (said : List String) : ReadsLiteral step (inside said) (escaped said) where
  text _ _ hquote hslash := by rw [step, if_neg hquote, if_neg hslash]
  backslash _ := rfl
  behind _ _ := rfl

/-- An escaped text that shares its literal with what stands around it. -/
theorem advance_escape_between {said : List String} {closing back : String}
    (hclosing : ∀ current, advance step (inside said current) closing =
      outside (said ++ [String.ofList (current ++ back.toList)])) (front content : String) :
    advance step (advance step (inside said front.toList) (escape content)) closing =
      outside (said ++ [front ++ content ++ back]) := by
  rw [(readsLiteral said).advance_escape, hclosing, ← String.toList_append,
    ← String.toList_append, String.ofList_toList]

end Scan

theorem escape_injective {s t : String} (h : escape s = escape t) : s = t := by
  have hs := (Scan.readsLiteral []).advance_escape [] s
  rw [h, (Scan.readsLiteral []).advance_escape [] t, List.nil_append, List.nil_append] at hs
  injection hs with _ hs
  exact String.toList_inj.1 hs.symm

end TypstPress.Typst
