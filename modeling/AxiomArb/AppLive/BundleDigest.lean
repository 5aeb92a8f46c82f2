import AxiomArb.AppLive.RevisionIdentity

/-!
# What a bundle revision tells apart

A semantic digest frames each of its parts by its length; the text of a bundle puts a NUL
behind every route, scope and digest.  Where routes and scopes hold no NUL the text is read
back from the front, whatever the versions and payloads hold.  A scope that holds one can
take over what follows it (`payload_read_as_scope`); with the contents that the bridge
renders it cannot.
-/

namespace AxiomArb.AppLive

open Domain Library

/-! ## Digested parts -/

/-- The parts of an artifact that its digest spells out. -/
structure StrategySemantics where
  key : StrategyKey
  routePolicyVersion : String
  canonicalSemanticPayload : String
deriving DecidableEq, Repr

namespace StrategySemantics

variable (semantics : StrategySemantics)

def digestInput : StrategyArtifactSemanticDigestInput :=
  { key := semantics.key
    routePolicyVersion := semantics.routePolicyVersion
    canonicalSemanticPayload := semantics.canonicalSemanticPayload
    sourceSnapshotId := none
    sourceSessionId := none
    observedAt := none
    strategyCandidateRevision := none
    adoptableStrategyRevision := none
    provenanceExplanation := none }

def semanticDigest : String := canonicalStrategyArtifactSemanticDigest semantics.digestInput

/-- Neither the route nor the scope holds a NUL. -/
def KeyFree : Prop :=
  '\x00' ∉ semantics.key.route.toList ∧ '\x00' ∉ semantics.key.scope.toList

instance : DecidablePred KeyFree := fun _ ↦ inferInstanceAs (Decidable (_ ∧ _))

/-- What is hashed of an artifact. -/
def hashed : String :=
  semantics.key.route ++ "\x00" ++ semantics.key.scope ++ "\x00" ++ semantics.semanticDigest ++ "\x00"

variable {semantics} {semantics' : StrategySemantics} {rest rest' : String}

/-- The digest is known from what begins with it. -/
theorem semanticDigest_append_inj
    (h : semantics.semanticDigest ++ rest = semantics'.semanticDigest ++ rest') :
    semantics = semantics' ∧ rest = rest' := by
  have hdigest : ∀ semantics : StrategySemantics, semantics.semanticDigest =
      "strategy-artifact-semantic-v1" ++ "|" ++ framed semantics.key.route ++ "|" ++
        framed semantics.key.scope ++ "|" ++ framed semantics.routePolicyVersion ++ "|" ++
          framed semantics.canonicalSemanticPayload := fun _ ↦ rfl
  simp only [hdigest, String.append_assoc, String.append_right_inj] at h
  obtain ⟨hroute, h⟩ := framed_append_inj h
  obtain ⟨hscope, h⟩ := framed_append_inj ((String.append_right_inj _).mp h)
  obtain ⟨hversion, h⟩ := framed_append_inj ((String.append_right_inj _).mp h)
  obtain ⟨hpayload, hrest⟩ := framed_append_inj ((String.append_right_inj _).mp h)
  obtain ⟨⟨route, scope⟩, version, payload⟩ := semantics
  obtain ⟨⟨route', scope'⟩, version', payload'⟩ := semantics'
  obtain rfl : route = route' := hroute
  obtain rfl : scope = scope' := hscope
  obtain rfl : version = version' := hversion
  obtain rfl : payload = payload' := hpayload
  exact ⟨rfl, hrest⟩

/-- What is hashed of an artifact is known from what begins with it. -/
theorem hashed_append_inj (hfree : semantics.KeyFree) (hfree' : semantics'.KeyFree)
    (h : semantics.hashed ++ rest = semantics'.hashed ++ rest') :
    semantics = semantics' ∧ rest = rest' := by
  have hhashed : ∀ (semantics : StrategySemantics) (rest : String), semantics.hashed ++ rest =
      semantics.key.route ++ String.singleton '\x00' ++ (semantics.key.scope ++
        String.singleton '\x00' ++ (semantics.semanticDigest ++ ("\x00" ++ rest))) := by
    intro semantics rest
    simp only [hashed, String.append_assoc]
    rfl
  rw [hhashed, hhashed] at h
  obtain ⟨-, h⟩ := append_mark_inj hfree.1 hfree'.1 h
  obtain ⟨-, h⟩ := append_mark_inj hfree.2 hfree'.2 h
  obtain ⟨hsemantics, h⟩ := semanticDigest_append_inj h
  exact ⟨hsemantics, (String.append_right_inj _).mp h⟩

theorem hashed_ne_empty : semantics.hashed ≠ "" := by
  intro h
  have hlength := congrArg String.length h
  have hmark : ("\x00" : String).length = 1 := rfl
  simp only [hashed, String.length_append, hmark, String.length_empty] at hlength
  omega

end StrategySemantics

/-! ## Artifacts -/

/-- The digest of the artifact is made of the parts. -/
structure RouteArtifact.Digests (artifact : RouteArtifact) (semantics : StrategySemantics) :
    Prop where
  key : artifact.key = semantics.key
  routePolicyVersion : artifact.routePolicyVersion = semantics.routePolicyVersion
  semanticDigest : artifact.semanticDigest = semantics.semanticDigest

section Bundles

variable {artifacts artifacts' : List RouteArtifact} {parts parts' : List StrategySemantics}
  {sha256 : String → String}

theorem foldl_hashArtifact_eq (h : List.Forall₂ RouteArtifact.Digests artifacts parts)
    (text : String) :
    artifacts.foldl hashArtifact text =
      parts.foldl (fun text semantics ↦ text ++ semantics.hashed) text := by
  induction h generalizing text with
  | nil => rfl
  | cons hdigests _ ih =>
      rw [List.foldl_cons, List.foldl_cons, ih, hashArtifact, hdigests.key, hdigests.semanticDigest,
        StrategySemantics.hashed]

/-- One artifact is digested from one list of parts. -/
theorem RouteArtifact.Digests.unique {artifact : RouteArtifact} {semantics semantics' : StrategySemantics}
    (h : artifact.Digests semantics) (h' : artifact.Digests semantics') : semantics = semantics' := by
  have hdigest : semantics.semanticDigest ++ "" = semantics'.semanticDigest ++ "" := by
    rw [← h.semanticDigest, h'.semanticDigest]
  exact (StrategySemantics.semanticDigest_append_inj hdigest).1

/-- **Bundles of one revision are made of the same parts**, where routes and scopes hold no
NUL, and where the bridge renders the artifacts. -/
theorem parts_eq_of_bundleRevision_eq (hsha : Function.Injective sha256) {kind : String}
    (h : List.Forall₂ RouteArtifact.Digests artifacts parts)
    (h' : List.Forall₂ RouteArtifact.Digests artifacts' parts')
    (hcover : (∀ semantics ∈ parts ++ parts', semantics.KeyFree) ∨
      ∀ artifact ∈ artifacts ++ artifacts', artifact.Rendered)
    (heq : bundleRevision sha256 kind artifacts = bundleRevision sha256 kind artifacts') :
    parts = parts' := by
  have htext := hsha ((String.append_right_inj (toString kind ++ "-")).mp heq)
  simp only [List.mem_append, or_imp, forall_and] at hcover
  rcases hcover with ⟨hfree, hfree'⟩ | ⟨hrendered, hrendered'⟩
  · rw [foldl_hashArtifact_eq h, foldl_hashArtifact_eq h'] at htext
    exact foldl_append_inj (fun _ ↦ StrategySemantics.hashed_ne_empty)
      (fun _ _ _ _ ↦ StrategySemantics.hashed_append_inj) hfree hfree' htext
  · obtain rfl := foldl_hashArtifact_inj hrendered hrendered' _ htext
    have hunique : Relator.RightUnique RouteArtifact.Digests := fun _ _ _ ↦ RouteArtifact.Digests.unique
    exact List.right_unique_forall₂' hunique h h'

/-- The parts of an artifact that the bridge renders. -/
def RouteArtifact.semantics (artifact : RouteArtifact) : StrategySemantics :=
  { key := artifact.key
    routePolicyVersion := artifact.routePolicyVersion
    canonicalSemanticPayload := artifact.content.text }

theorem RouteArtifact.Rendered.digests {artifact : RouteArtifact} (h : artifact.Rendered) :
    artifact.Digests artifact.semantics := by
  cases h with
  | fullSet fullSetBasisDigest => exact ⟨rfl, rfl, rfl⟩
  | negRisk target renderedLiveTarget => exact ⟨rfl, rfl, rfl⟩

end Bundles

section Sample

/-- The artifacts of the sample, that of the full set and that of its family. -/
def sampleBundle : List RouteArtifact :=
  [fullSetRouteArtifact defaultFullSetBasisDigest,
    negRiskRouteArtifact
      { targetId := "candidate-target-family-a", familyId := "family-a", validation := .adoptable }
      (some (sampleLiveTarget "family-a"))]

def sampleParts : List StrategySemantics :=
  [{ key := { route := "full-set", scope := "default" }
     routePolicyVersion := "full-set-route-policy-v1"
     canonicalSemanticPayload :=
      "\x7b\x22config_basis_digest\x22:\x22full-set-basis-default\x22," ++
      "\x22mode\x22:\x22static-default\x22\x7d" },
   { key := { route := "neg-risk", scope := "family-a" }
     routePolicyVersion := "neg-risk-route-policy-v1"
     canonicalSemanticPayload :=
      "\x7b\x22family_id\x22:\x22family-a\x22," ++
      "\x22rendered_live_target\x22:\x7b\x22family_id\x22:\x22family-a\x22,\x22members\x22:[" ++
      "\x7b\x22condition_id\x22:\x22condition-1\x22,\x22price\x22:\x220.45\x22," ++
      "\x22quantity\x22:\x2210\x22,\x22token_id\x22:\x22token-1\x22\x7d]\x7d," ++
      "\x22target_id\x22:\x22candidate-target-family-a\x22," ++
      "\x22validation\x22:\x7b\x22status\x22:\x22adoptable\x22\x7d\x7d" }]

/-- The revision of the sample is that of these parts. -/
theorem sampleBundle_parts_eq :
    bundleRevision sampleArtifactsSha256 "operator-strategy" sampleBundle =
        "operator-strategy-6616ed1977d2914ac54b78950ece2ed64f9471ff93d171ed365734ed45631855" ∧
      sampleBundle.map RouteArtifact.semantics = sampleParts := by
  refine ⟨by decide +kernel, ?_⟩
  have hrendered : List.Forall₂ RouteArtifact.Digests sampleBundle
      (sampleBundle.map RouteArtifact.semantics) :=
    .cons (RouteArtifact.Rendered.digests (.fullSet _))
      (.cons (RouteArtifact.Rendered.digests (.negRisk _ _)) .nil)
  have hparts : List.Forall₂ RouteArtifact.Digests sampleBundle sampleParts :=
    .cons ⟨by decide +kernel, by decide +kernel, by decide +kernel⟩
      (.cons ⟨by decide +kernel, by decide +kernel, by decide +kernel⟩ .nil)
  have hsame : bundleRevision sampleArtifactsSha256 "operator-strategy" sampleBundle =
      bundleRevision sampleArtifactsSha256 "operator-strategy" sampleBundle := rfl
  exact parts_eq_of_bundleRevision_eq sampleArtifactsSha256_injective hrendered hparts
    (.inl (by decide +kernel)) hsame

/-- An artifact of these parts; its content is not hashed. -/
def StrategySemantics.artifact (semantics : StrategySemantics) : RouteArtifact :=
  { key := semantics.key
    routePolicyVersion := semantics.routePolicyVersion
    semanticDigest := semantics.semanticDigest
    content := .null }

/-- A scope that holds the digest of another artifact, up to its payload. -/
def swallowingParts : StrategySemantics :=
  { key :=
      { route := "r"
        scope := "s" ++ "\x00" ++ "strategy-artifact-semantic-v1|1:r|1:s|1:v|93:" }
    routePolicyVersion := "v"
    canonicalSemanticPayload := "p" }

/-- The payload goes on as the bundle does behind that scope. -/
def swallowedParts : StrategySemantics :=
  { key := { route := "r", scope := "s" }
    routePolicyVersion := "v"
    canonicalSemanticPayload := "\x00" ++ swallowingParts.semanticDigest }

/-- With NULs in a scope and a payload, two artifacts have one revision over any digest. -/
theorem payload_read_as_scope :
    ¬ ∃ sha256 : String → String, Function.Injective sha256 ∧
      ∀ kind artifacts artifacts' parts parts',
        List.Forall₂ RouteArtifact.Digests artifacts parts →
        List.Forall₂ RouteArtifact.Digests artifacts' parts' →
        bundleRevision sha256 kind artifacts = bundleRevision sha256 kind artifacts' →
          ∀ semantics, semantics ∈ parts ↔ semantics ∈ parts' := by
  rintro ⟨sha256, -, hall⟩
  have htext : [swallowedParts.artifact].foldl hashArtifact
        (BUNDLE_POLICY_VERSION ++ "operator-strategy") =
      [swallowingParts.artifact].foldl hashArtifact
        (BUNDLE_POLICY_VERSION ++ "operator-strategy") := by
    decide +kernel
  have hsame := hall "operator-strategy" [swallowedParts.artifact] [swallowingParts.artifact]
    [swallowedParts] [swallowingParts] (.cons ⟨rfl, rfl, rfl⟩ .nil) (.cons ⟨rfl, rfl, rfl⟩ .nil)
    (by rw [bundleRevision, bundleRevision, htext])
  have hmem := (hsame swallowedParts).mp List.mem_cons_self
  revert hmem
  decide +kernel

end Sample

end AxiomArb.AppLive
