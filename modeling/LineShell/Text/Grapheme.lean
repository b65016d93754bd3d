import LineShell.Text.GraphemeTable
import LineShell.Text.Utf8

/-!
Extended grapheme clusters: the stretches of text a reader takes for one character. Whether two
neighbouring characters belong together depends on the second one and on a summary of the text
before it, which is read once from left to right.
-/
namespace LineShell.Text

/-- What a character does at the boundary of a cluster. -/
inductive ClusterRole where
  | carriageReturn
  | lineFeed
  | control
  | extend
  | joiner
  | regional
  | prepend
  | spacing
  | hangulLead
  | hangulVowel
  | hangulTail
  | hangulOpen
  | hangulClosed
  | other
  deriving DecidableEq, Repr

/-- Vowels that continue the syllable of a lead: those of Hangul, and five of Kirat Rai. -/
def vowelRanges : List Range :=
  [(0x1160, 0x11A7), (0xD7B0, 0xD7C6), (0x16D63, 0x16D63), (0x16D67, 0x16D6A)]

/-- The role of a scalar value. Hangul syllables are closed by a tail in all but each 28th
place. -/
def clusterRole (value : Nat) : ClusterRole :=
  if value = 0xD then .carriageReturn
  else if value = 0xA then .lineFeed
  else if value < 0x20 then .control
  else if value < 0x7F then .other
  else if value = 0x200D then .joiner
  else if 0x1F1E6 ≤ value ∧ value ≤ 0x1F1FF then .regional
  else if (0x1100 ≤ value ∧ value ≤ 0x115F) ∨ (0xA960 ≤ value ∧ value ≤ 0xA97C) then .hangulLead
  else if inRanges vowelRanges value then .hangulVowel
  else if (0x11A8 ≤ value ∧ value ≤ 0x11FF) ∨ (0xD7CB ≤ value ∧ value ≤ 0xD7FB) then .hangulTail
  else if 0xAC00 ≤ value ∧ value ≤ 0xD7A3 then
    if (value - 0xAC00) % 28 = 0 then .hangulOpen else .hangulClosed
  else if inRanges extendRanges value then .extend
  else if inRanges spacingMarkRanges value then .spacing
  else if inRanges prependRanges value then .prepend
  else if inRanges controlRanges value then .control
  else .other

/-- What has been seen of a consonant cluster: its consonant, and a linker after that. -/
inductive Conjunct where
  | none
  | consonant
  | linked
  deriving DecidableEq, Repr

/-- What has been seen of a joined pictograph: it with its marks, and a joiner after them. -/
inductive Pictograph where
  | none
  | open
  | joined
  deriving DecidableEq, Repr

/-- All that the boundary after a text depends on. -/
structure ClusterEdge where
  role : ClusterRole
  oddRegional : Bool
  pictograph : Pictograph
  conjunct : Conjunct

/-- The mark that keeps its neighbours apart: it stays with the cluster before it and ends a
conjunct. -/
def nonJoiner : Nat := 0x200C

/-- The summary of a text that ends in one more character. -/
def ClusterEdge.step (edge : Option ClusterEdge) (value : Nat) : ClusterEdge :=
  let role := clusterRole value
  let pictograph :=
    if inRanges pictographRanges value then .open
    else match role, edge.map (·.pictograph) with
      | .extend, some .open => .open
      | .joiner, some .open => .joined
      | _, _ => .none
  let conjunct :=
    if inRanges conjunctConsonantRanges value then .consonant
    else if value = nonJoiner then .none
    else match edge.map (·.conjunct) with
      | some .consonant =>
        if inRanges conjunctLinkerRanges value then .linked
        else if role = .extend || role = .joiner then .consonant else .none
      | some .linked => if role = .extend || role = .joiner then .linked else .none
      | _ => .none
  { role, pictograph, conjunct
    oddRegional := role = .regional && !(edge.map (·.oddRegional)).getD false }

/-- Whether a character continues the cluster that a text ends in. -/
def ClusterEdge.continues (edge : ClusterEdge) (value : Nat) : Bool :=
  match edge.role, clusterRole value with
  | .carriageReturn, .lineFeed => true
  | .carriageReturn, _ | .lineFeed, _ | .control, _ => false
  | _, .carriageReturn | _, .lineFeed | _, .control => false
  | .hangulLead, .hangulLead | .hangulLead, .hangulVowel => true
  | .hangulLead, .hangulOpen | .hangulLead, .hangulClosed => true
  | .hangulOpen, .hangulVowel | .hangulOpen, .hangulTail => true
  | .hangulVowel, .hangulVowel | .hangulVowel, .hangulTail => true
  | .hangulClosed, .hangulTail | .hangulTail, .hangulTail => true
  | _, .extend | _, .joiner | _, .spacing => true
  | .prepend, _ => true
  | .regional, .regional => edge.oddRegional
  | _, _ =>
    (edge.conjunct = .linked && inRanges conjunctConsonantRanges value) ||
      (edge.pictograph = .joined && inRanges pictographRanges value)

/-- The clusters of `rest`, after a text whose last cluster is the reverse of `cluster`. -/
def clustersAfter (edge : Option ClusterEdge) (cluster : Text) : Text → List Text
  | [] => if cluster.isEmpty then [] else [cluster.reverse]
  | c :: rest =>
    let next := some (ClusterEdge.step edge c.toNat)
    if edge.any (·.continues c.toNat) then clustersAfter next (c :: cluster) rest
    else if cluster.isEmpty then clustersAfter next [c] rest
    else cluster.reverse :: clustersAfter next [c] rest

/-- The extended grapheme clusters of a text, in order. -/
def clusters (text : Text) : List Text := clustersAfter none [] text

end LineShell.Text
