import ApprovalWatch.Proofs.Forms
import ApprovalWatch.Settings.Basic

/-!
# The flag of a reason in a location

A location is cut into its path, its query and its fragment. Where a failure leads, the flag of its
reason comes last in the whole text. In a destination without a fragment it is thus one more pair
after those of the query. A fragment goes on to the end of the text, though, and so it takes the
flag in: the query stays as it was.

Main results:

* `Text.cut_append_of_not_mem`, `Text.cut_append_of_mem`: where a longer text is cut.
* `Location.ofText_append_of_mem`: what is put after a location with a fragment belongs to it.
* `FailurePage.destinationFor_carries_iff`: which destinations carry a flag, and what becomes of the
  others.
* `FailurePage.not_destinationFor_carries`: a flag may be lost.
-/

namespace ApprovalWatch

/-! ## Parts of a location -/

namespace Text

/-- The text cut at the first `mark`: what stands before it, and what follows it if it is there. -/
def cut (mark : Char) : List Char → List Char × Option (List Char)
  | [] => ([], none)
  | c :: cs => if c = mark then ([], some cs) else (c :: (cut mark cs).1, (cut mark cs).2)

section Cut

variable {mark : Char} {cs : List Char}

theorem cut_eq_none_iff : (cut mark cs).2 = none ↔ mark ∉ cs := by
  induction cs with
  | nil => simp [cut]
  | cons c cs ih =>
    rw [cut, List.mem_cons, not_or, ← ih]
    split
    · rename_i hc
      exact ⟨nofun, fun h => absurd hc.symm h.1⟩
    · rename_i hc
      exact ⟨fun h => ⟨fun heq => hc heq.symm, h⟩, And.right⟩

theorem cut_append_of_not_mem (h : mark ∉ cs) (ds : List Char) :
    cut mark (cs ++ ds) = (cs ++ (cut mark ds).1, (cut mark ds).2) := by
  induction cs with
  | nil => rfl
  | cons c cs ih =>
    rw [List.mem_cons, not_or] at h
    rw [List.cons_append, cut, if_neg (Ne.symm h.1), ih h.2]
    rfl

theorem cut_of_not_mem (h : mark ∉ cs) : cut mark cs = (cs, none) := by
  have happend := cut_append_of_not_mem h []
  rwa [List.append_nil, cut, List.append_nil] at happend

theorem cut_append_of_mem (h : mark ∈ cs) (ds : List Char) :
    cut mark (cs ++ ds) = ((cut mark cs).1, (cut mark cs).2.map (· ++ ds)) := by
  induction cs with
  | nil => exact absurd h List.not_mem_nil
  | cons c cs ih =>
    rw [List.cons_append, cut, cut]
    split
    · rfl
    · rename_i hc
      rw [ih (List.mem_of_ne_of_mem (Ne.symm hc) h)]

end Cut

end Text

/-- The parts of a location. A query or a fragment that is not there is another thing than an empty
one. -/
structure Location where
  path : List Char
  query : Option (List Char)
  fragment : Option (List Char)
  deriving DecidableEq, Repr

namespace Location

open Text

/-- The location that a text spells: the fragment follows its first number sign, and the query the
first question mark before that. -/
def ofText (text : String) : Location :=
  let (rest, fragment) := cut '#' text.toList
  let (path, query) := cut '?' rest
  ⟨path, query, fragment⟩

/-- The pairs of the query. -/
def pairs (l : Location) : List (List Char × List Char) :=
  Url.Form.pairs (l.query.getD [])

/-- The location is another one with a flag after the pairs of its query. -/
structure Carries (l base : Location) (flag : String) : Prop where
  path : l.path = base.path
  fragment : l.fragment = base.fragment
  pairs : l.pairs = base.pairs ++ [(flag.toList, "true".toList)]

variable {text longer : String} {ds : List Char}

theorem fragment_eq_none_iff : (ofText text).fragment = none ↔ '#' ∉ text.toList :=
  cut_eq_none_iff

theorem mem_of_fragment {fragment : List Char} (h : (ofText text).fragment = some fragment) :
    '#' ∈ text.toList := by
  refine Decidable.not_not.mp fun hnot => ?_
  rw [fragment_eq_none_iff.mpr hnot] at h
  cases h

theorem ofText_of_not_mem (h : '#' ∉ text.toList) :
    ofText text = ⟨(cut '?' text.toList).1, (cut '?' text.toList).2, none⟩ := by
  rw [ofText, cut_of_not_mem h]

/-- What is put after a location with a fragment belongs to the fragment. -/
theorem ofText_append_of_mem (heq : longer.toList = text.toList ++ ds) (h : '#' ∈ text.toList) :
    ofText longer =
      { ofText text with fragment := (ofText text).fragment.map (· ++ ds) } := by
  rw [ofText, heq, cut_append_of_mem h]
  rfl

end Location

/-! ## Flags -/

namespace FailurePage

open Text Url

/-- A flag as it is written after a destination. -/
def flagPair (flag : String) : List Char :=
  Form.encodePair flag.toList "true".toList

/-- What stands between a destination and a flag. -/
def separator (destination : String) : Char :=
  if '?' ∈ destination.toList then '&' else '?'

variable {p : FailurePage} {code flag : String}

theorem toList_destinationFor (h : p.reasonFlags.get? code = some flag) :
    (p.destinationFor code).toList =
      p.destination.toList ++ separator p.destination :: flagPair flag := by
  rw [destinationFor, h, separator, flagPair]
  simp only [List.contains_iff_mem, String.toList_append, String.toList_ofList, List.append_assoc]
  split <;> rfl

/-- A flag that is written does not begin a fragment. -/
theorem not_mem_separator_flagPair (destination flag : String) :
    '#' ∉ separator destination :: flagPair flag := by
  rw [List.mem_cons, flagPair, Form.encodePair, List.mem_append, List.mem_cons]
  rintro (h | h | h | h)
  · rw [separator] at h
    split at h <;> cases h
  · exact Form.ne_of_mem_encode h (by decide)
  · cases h
  · exact Form.ne_of_mem_encode h (by decide)

/-- A destination without a fragment has the flag as one more pair. -/
theorem destinationFor_carries_of_not_mem (h : p.reasonFlags.get? code = some flag)
    (hd : '#' ∉ p.destination.toList) :
    (Location.ofText (p.destinationFor code)).Carries (Location.ofText p.destination) flag := by
  have htext := toList_destinationFor h
  have hl : '#' ∉ (p.destinationFor code).toList := by
    rw [htext, List.mem_append, not_or]
    exact ⟨hd, not_mem_separator_flagPair p.destination flag⟩
  rw [Location.ofText_of_not_mem hl, Location.ofText_of_not_mem hd, htext, separator]
  split
  · rename_i hquery
    rw [cut_append_of_mem hquery]
    refine ⟨rfl, rfl, ?_⟩
    cases hcut : (cut '?' p.destination.toList).2 with
    | none => exact absurd hquery (cut_eq_none_iff.mp hcut)
    | some query =>
      exact (Form.pairs_append_separator query _).trans
        (congrArg _ (Form.pairs_encodePair flag.toList "true".toList))
  · rename_i hquery
    rw [cut_append_of_not_mem hquery, cut_of_not_mem hquery, cut, if_pos rfl, List.append_nil]
    exact ⟨rfl, rfl, Form.pairs_encodePair flag.toList "true".toList⟩

/-- A destination with a fragment has the flag at the end of the fragment, and not in its query. -/
theorem ofText_destinationFor_of_mem (h : p.reasonFlags.get? code = some flag)
    (hd : '#' ∈ p.destination.toList) :
    Location.ofText (p.destinationFor code) =
      { Location.ofText p.destination with
        fragment := (Location.ofText p.destination).fragment.map
          (· ++ separator p.destination :: flagPair flag) } :=
  Location.ofText_append_of_mem (toList_destinationFor h) hd

theorem not_carries_of_mem (h : p.reasonFlags.get? code = some flag)
    (hd : '#' ∈ p.destination.toList) :
    ¬ (Location.ofText (p.destinationFor code)).Carries (Location.ofText p.destination) flag := by
  intro hcarries
  have hfragment := hcarries.fragment
  rw [ofText_destinationFor_of_mem h hd] at hfragment
  cases hf : (Location.ofText p.destination).fragment with
  | none => exact Location.fragment_eq_none_iff.mp hf hd
  | some fragment =>
    -- the fragment has grown
    simp [hf] at hfragment

/-- **Which destinations carry the flag of a reason.** A reason without a flag leads to the plain
destination. For any other one, the location has the path and the fragment of the destination, and
the pairs of its query followed by the flag, exactly if the destination has no fragment. If it has
one, then the flag comes at the end of the fragment, and path and query are those of the
destination. -/
theorem destinationFor_carries_iff (p : FailurePage) (code : String) :
    (p.reasonFlags.get? code = none → p.destinationFor code = p.destination) ∧
    ∀ flag, p.reasonFlags.get? code = some flag →
      ((Location.ofText (p.destinationFor code)).Carries (Location.ofText p.destination) flag ↔
        (Location.ofText p.destination).fragment = none) ∧
      ∀ fragment, (Location.ofText p.destination).fragment = some fragment →
        Location.ofText (p.destinationFor code) =
          { Location.ofText p.destination with
            fragment := some (fragment ++ separator p.destination :: flagPair flag) } := by
  refine ⟨destinationFor_of_unmapped, fun flag h => ⟨?_, fun fragment hf => ?_⟩⟩
  · rw [Location.fragment_eq_none_iff]
    constructor
    · exact fun hcarries hd => not_carries_of_mem h hd hcarries
    · exact destinationFor_carries_of_not_mem h
  · have hd := Location.mem_of_fragment hf
    rw [ofText_destinationFor_of_mem h hd, hf, Option.map_some]

/-- A destination with a query and a fragment. -/
def anchored : FailurePage where
  destination := "/cas/login?service=x#top"
  reasonFlags := NameMap.ofList [("DEADLINE", "pushTimeout"), ("EXPIRED", "a b&é")]

/-- A destination whose query ends with a separator, with the same flags. -/
def unanchored : FailurePage where
  destination := "/cas/login?service=x&"
  reasonFlags := anchored.reasonFlags

theorem destinationFor_carries_iff_anchored :
    Location.ofText (anchored.destinationFor "EXPIRED") =
      ⟨"/cas/login".toList, some "service=x".toList, some "top&a+b%26%C3%A9=true".toList⟩ ∧
    (Location.ofText (unanchored.destinationFor "EXPIRED")).pairs =
      [("service".toList, "x".toList), ("a b&é".toList, "true".toList)] ∧
    unanchored.destinationFor "REJECTED" = "/cas/login?service=x&" := by
  have hflag : anchored.reasonFlags.get? "EXPIRED" = some "a b&é" := by decide +kernel
  refine ⟨?_, ?_, (destinationFor_carries_iff unanchored "REJECTED").1 (by decide +kernel)⟩
  · obtain ⟨-, hfragment⟩ := (destinationFor_carries_iff anchored "EXPIRED").2 _ hflag
    have htop : (Location.ofText anchored.destination).fragment = some "top".toList := by
      decide +kernel
    rw [hfragment _ htop]
    decide +kernel
  · obtain ⟨hcarries, -⟩ := (destinationFor_carries_iff unanchored "EXPIRED").2 _ hflag
    rw [(hcarries.mpr (by decide +kernel)).pairs]
    decide +kernel

/-- A flag may be lost: a destination with a fragment does not carry it. -/
theorem not_destinationFor_carries :
    ¬ ∀ (p : FailurePage) (code flag : String), p.destination ≠ "" →
      p.reasonFlags.get? code = some flag →
      (Location.ofText (p.destinationFor code)).Carries (Location.ofText p.destination) flag := by
  intro h
  have hflag : anchored.reasonFlags.get? "DEADLINE" = some "pushTimeout" := by decide +kernel
  exact not_carries_of_mem hflag (by decide +kernel)
    (h anchored "DEADLINE" "pushTimeout" (by decide) hflag)

end FailurePage

end ApprovalWatch
