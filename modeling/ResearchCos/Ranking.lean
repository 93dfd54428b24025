import Mathlib.Data.List.Sort
import ResearchCos.Text
import ResearchCos.Models

namespace ResearchCos

open Foundation

/-!
# Source ranking

The filter between research and compression.  A heuristic pass drops junk and
duplicate addresses and keeps the most relevant sources; an optional curator
narrows them further; the refs of the claims are pruned to the survivors.
-/

namespace Ranking

/-- Hosts that only redirect. -/
def junkHosts : List (List Char) :=
  ["bit.ly".toList, "tinyurl.com".toList, "t.co".toList, "goo.gl".toList,
    "ow.ly".toList, "buff.ly".toList]

/-- Beginnings of the query parameters that only track. -/
def trackingPrefixes : List (List Char) :=
  ["utm_".toList, "fbclid".toList, "gclid".toList, "mc_eid".toList,
    "ref".toList]

def typeWeight : SourceType → Nat
  | .primary => 3
  | .standard => 3
  | .internal => 2
  | .secondary => 1
  | .marketing => 0

def qualityWeight : SourceQuality → Nat
  | .high => 3
  | .medium => 2
  | .low => 1
  | .unknown => 1

/-- Text without the slashes at its end. -/
def dropEndSlashes (path : String) : String :=
  String.ofList (path.toList.reverse.dropWhile (· = '/')).reverse

/-- Lexicographic order of code points. -/
def stringLe (first second : String) : Prop :=
  ¬second < first

instance : DecidableRel stringLe := fun first second =>
  inferInstanceAs (Decidable (¬second < first))

section Filtering

variable [PythonText]

/-- The address under which near-duplicates coincide. -/
def normalizeUrl (url : Option String) : Option String :=
  match url with
  | none => none
  | some address =>
      if address = "" then
        none
      else
        match PythonText.urlsplit (strip address) with
        | none => some address
        | some parts =>
            let kept :=
              (parts.query.toList.splitOn '&').filter fun parameter =>
                !parameter.isEmpty &&
                  !trackingPrefixes.any fun tracked =>
                    tracked.isPrefixOf (PythonText.lower parameter)
            some
              (PythonText.urlunsplit
                { scheme :=
                    String.ofList
                      (lowerChars
                        (if parts.scheme = "" then "https" else parts.scheme))
                  netloc := String.ofList (lowerChars parts.netloc)
                  path := dropEndSlashes parts.path
                  query :=
                    "&".intercalate
                      ((kept.map String.ofList).insertionSort stringLe)
                  fragment := "" })

/-- Lower-cased host of an address, empty when there is none. -/
def hostOf (url : Option String) : List Char :=
  match url with
  | none => []
  | some address =>
      if address = "" then
        []
      else
        match PythonText.urlsplit address with
        | none => []
        | some parts => lowerChars parts.netloc

/-- A source without title and address, or behind a redirecting host. -/
def isJunk (source : Source) : Bool :=
  (strip source.title = "" && strip (source.url.getD "") = "") ||
    decide (hostOf source.url ∈ junkHosts)

def authority (source : Source) : Nat :=
  typeWeight source.sourceType + qualityWeight source.quality

/-- The number of distinct keywords in the title. -/
def relevance (keywords : List (List Char)) (source : Source) : Nat :=
  ((tokenize source.title).dedup.filter fun word => word ∈ keywords).length

/-- Drop junk, and keep the first source of every address. -/
def dedupSources : List Source → List String → List Source
  | [], _ => []
  | source :: rest, seenUrls =>
      if isJunk source then
        dedupSources rest seenUrls
      else
        match normalizeUrl source.url with
        | none => source :: dedupSources rest seenUrls
        | some address =>
            if address ∈ seenUrls then
              dedupSources rest seenUrls
            else
              source :: dedupSources rest (address :: seenUrls)

/-- More relevant first, then more authoritative, ties as they come. -/
def ranksBefore
    (keywords : List (List Char))
    (first second : Source) : Prop :=
  relevance keywords second < relevance keywords first ∨
    relevance keywords second = relevance keywords first ∧
      authority second ≤ authority first

instance (keywords : List (List Char)) :
    DecidableRel (ranksBefore keywords) := fun _ _ =>
  inferInstanceAs (Decidable (_ ∨ _))

/-- The deduplicated, junk-free, best `topK` sources. -/
def rank
    (sources : List Source)
    (issueKeywords : List (List Char))
    (topK : Nat) : List Source :=
  let keywords := issueKeywords.map PythonText.lower
  ((dedupSources sources []).insertionSort (ranksBefore keywords)).take topK

/-- An optional curator: the kept identifiers, or `none` when it fails. -/
abbrev Curator :=
  Option (List Source → String → Option (List String))

omit [PythonText] in
/-- The curated sources in the order the curator names them. -/
def pickKept
    (byId : OrderedMap String Source) :
    List String → List String → List Source
  | [], _ => []
  | id :: rest, seen =>
      match byId.get? id with
      | none => pickKept byId rest seen
      | some source =>
          if source.id ∈ seen then
            pickKept byId rest seen
          else
            source :: pickKept byId rest (source.id :: seen)

omit [PythonText] in
/-- Narrow the sources; a failed or empty curation keeps them all. -/
def curate
    (kept : Option (List String))
    (sources : List Source) : List Source :=
  match kept with
  | none => sources
  | some ids =>
      let byId :=
        sources.foldl
          (fun known source => known.insert source.id source)
          (∅ : OrderedMap String Source)
      match pickKept byId ids [] with
      | [] => sources
      | picked => picked

/-- Rank the sources of a bundle and prune the refs of its claims. -/
def apply (curator : Curator) (bundle : EvidenceBundle) : EvidenceBundle :=
  let ranked := rank bundle.sources (tokenize bundle.query) 5
  let survivors :=
    match curator with
    | none => ranked
    | some ask =>
        if ranked = [] then
          ranked
        else
          curate (ask ranked bundle.query) ranked
  let survivingIds := survivors.map Source.id
  { bundle with
    sources := survivors
    claims :=
      bundle.claims.map fun claim =>
        { claim with
          sourceRefs :=
            claim.sourceRefs.filter fun ref => ref ∈ survivingIds } }

end Filtering

end Ranking

end ResearchCos
