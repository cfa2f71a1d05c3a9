import RegisterMachine.Text.Cluster.Role

/-! # Clusters

How a text falls into clusters, the sequences of characters that a reader takes for one. A cluster ends
where the next character does not join it. Main statement: nothing is lost, the clusters put together
are the text.
-/

namespace RegisterMachine.Text

/-! ## Ties -/

/-- Characters that are shown as one. -/
abbrev Cluster : Type := List Char

/-- What a cluster would still take in, beyond the marks that every cluster takes. -/
inductive Tie where
  | loose
  | pictograph
  | joinedPictograph
  | consonant
  | linkedConsonant
  | regional
deriving DecidableEq, Repr

namespace ClusterRole

/-- Whether characters of a role stay apart from everything but a line end's other half. -/
def isolates : ClusterRole → Bool
  | carriageReturn | lineFeed | control => true
  | _ => false

/-- Whether characters of a role join the character before them, whatever that is. -/
def trails : ClusterRole → Bool
  | extend | linker | joiner | nonJoiner | spacing => true
  | _ => false

def sharesSyllable : ClusterRole → ClusterRole → Bool
  | initial, initial | initial, vowel | initial, openSyllable | initial, closedSyllable => true
  | openSyllable, vowel | openSyllable, final | vowel, vowel | vowel, final => true
  | closedSyllable, final | final, final => true
  | _, _ => false

end ClusterRole

namespace Tie

/-- Whether a character of the given role is what the cluster waits for. -/
def admits : Tie → ClusterRole → Bool
  | joinedPictograph, .pictograph | linkedConsonant, .consonant | regional, .regional => true
  | _, _ => false

def start : ClusterRole → Tie
  | .pictograph => pictograph
  | .consonant => consonant
  | .regional => regional
  | _ => loose

def next : Tie → ClusterRole → Tie
  | pictograph, .extend | pictograph, .linker | pictograph, .nonJoiner => pictograph
  | pictograph, .joiner => joinedPictograph
  | consonant, .extend | consonant, .joiner => consonant
  | consonant, .linker => linkedConsonant
  | linkedConsonant, .extend | linkedConsonant, .joiner | linkedConsonant, .linker => linkedConsonant
  | regional, .regional => loose
  | _, role => start role

end Tie

/-! ## Clusters -/

/-- Whether a character joins the cluster before it, given the role of the cluster's last character and
the cluster's tie. -/
def joins (last : ClusterRole) (tie : Tie) (role : ClusterRole) : Bool :=
  if last = .carriageReturn ∧ role = .lineFeed then true
  else if last.isolates || role.isolates then false
  else role.trails || last = .prepend || last.sharesSyllable role || tie.admits role

/-- The clusters of a text whose first one is under way: the role of its last character, its tie and its
characters so far, the last one first. -/
def clustersFrom (last : ClusterRole) (tie : Tie) (cluster : List Char) : List Char → List Cluster
  | [] => [cluster.reverse]
  | c :: rest =>
    let role := clusterRole c
    if joins last tie role then clustersFrom role (tie.next role) (c :: cluster) rest
    else cluster.reverse :: clustersFrom role (.start role) [c] rest

def clusters : List Char → List Cluster
  | [] => []
  | c :: rest => clustersFrom (clusterRole c) (.start (clusterRole c)) [c] rest

theorem flatten_clustersFrom (last : ClusterRole) (tie : Tie) (cluster rest : List Char) :
    (clustersFrom last tie cluster rest).flatten = cluster.reverse ++ rest := by
  induction rest generalizing last tie cluster with
  | nil => simp [clustersFrom]
  | cons c rest ih =>
    rw [clustersFrom]
    split <;> simp [ih]

@[simp]
theorem flatten_clusters (text : List Char) : (clusters text).flatten = text := by
  cases text with
  | nil => rfl
  | cons c rest => simp [clusters, flatten_clustersFrom]

end RegisterMachine.Text
