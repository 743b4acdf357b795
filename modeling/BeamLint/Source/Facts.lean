import BeamLint.Config
import BeamLint.Layout
import BeamLint.Markup.Scan
import BeamLint.Naming
import BeamLint.Selector.Parse
import BeamLint.Source.Content
import BeamLint.Source.Kind
import BeamLint.Variable.Basic

/-!
# Facts of a source

What one source says by itself: its class tokens, class lists, declarations and uses, each at its
location, and the findings on them. A source of unknown kind says nothing, and one that cannot be
read is excluded with a finding of its own.
-/

namespace BeamLint

/-- What is found in a source. -/
structure Findings where
  occurrences : List Occurrence := []
  classLists : List ClassList := []
  declarations : List Declaration := []
  usages : List Usage := []
  diagnostics : List Diagnostic := []
  deriving Repr, DecidableEq

/-- The findings of two parts of a source, list by list. -/
def Findings.append (a b : Findings) : Findings where
  occurrences := a.occurrences ++ b.occurrences
  classLists := a.classLists ++ b.classLists
  declarations := a.declarations ++ b.declarations
  usages := a.usages ++ b.usages
  diagnostics := a.diagnostics ++ b.diagnostics

instance : Append Findings := ⟨Findings.append⟩

/-- What one source says by itself. -/
structure Facts where
  path : String
  kind : SourceKind
  isTheme : Bool
  excluded : Bool := false
  found : Findings := {}
  deriving Repr, DecidableEq

/-- What is known while a text is turned into facts. -/
structure Reading where
  config : Config
  path : String
  isTheme : Bool
  text : List Char

namespace Reading

/-- The location of a place in the text. -/
def locate (r : Reading) (offset : Nat) : Location := .ofOffset r.path r.text offset

/-- The finding on a class token that cannot be read. -/
def tokenFinding (e : SelectorError) (location : Location) : Diagnostic :=
  Rule.selectorSyntax.finding
    s!"Class '{e.raw}' is not a BEAM selector: {e.reason} ('{e.culprit}')" location []
    "Use lower snake case blocks joined to elements by a single hyphen"

/-- Reads one class token. -/
def token (r : Reading) (t : TokenSite) : Except Diagnostic Occurrence :=
  match Selector.parse r.config.layoutPrefix t.text with
  | .ok s => .ok ⟨s, r.locate t.offset⟩
  | .error e => .error (tokenFinding e (r.locate t.offset))

/-- The class tokens that can be read. -/
def occurrences (r : Reading) (ts : List TokenSite) : List Occurrence :=
  ts.filterMap fun t => (r.token t).toOption

/-- The findings on the class tokens that cannot be read. -/
def tokenFindings (r : Reading) (ts : List TokenSite) : List Diagnostic :=
  ts.filterMap fun t =>
    match r.token t with
    | .ok _ => none
    | .error d => some d

/-- The references of a value, at their locations. -/
def references (r : Reading) (p : PropertySite) (v : Value) : List Reference :=
  v.references.map fun ref => ⟨ref.name, r.locate (p.valueOffset + ref.offset), ref.hasFallback⟩

/-- A declaration; `tier` is its tier when the place decides it. -/
def declaration (r : Reading) (tier : Option Tier) (p : PropertySite) : Declaration :=
  let v := Value.parse p.value.toList
  { name := p.name
    tier := tier.getD (.classify p.name r.isTheme r.config.primitivePrefix)
    references := r.references p v
    literal := v.literal
    location := r.locate p.offset }

/-- A use of custom properties, unless its value refers to none. -/
def usage? (r : Reading) (p : PropertySite) : Option Usage :=
  let v := Value.parse p.value.toList
  if v.references.isEmpty then none
  else
    some
      { property := p.name
        references := r.references p v
        location := r.locate p.offset
        fromTheme := r.isTheme }

/-- The findings of a stylesheet; `tier` is the tier of its declarations when the place decides
it. -/
def stylesheet (r : Reading) (tier : Option Tier) (s : StylesheetScan) : Findings where
  occurrences := r.occurrences s.classTokens
  declarations := s.declarations.map (r.declaration tier)
  usages := s.usages.filterMap r.usage?
  diagnostics := r.tokenFindings s.classTokens

/-- The findings of a class attribute; a token counts once. -/
def classAttribute (r : Reading) (a : ClassAttribute) : Findings :=
  let tokens := firsts (·.text) a.tokens
  let occurrences := r.occurrences tokens
  { occurrences
    classLists := [⟨tokens.map (·.text), occurrences, r.locate a.offset⟩]
    diagnostics := r.tokenFindings tokens }

/-- The findings of markup: its stylesheets, its style attributes, its class lists. -/
def markup (r : Reading) (m : MarkupScan) : Findings :=
  m.classAttributes.foldl (fun found a => found ++ r.classAttribute a)
    (r.stylesheet none m.styleBlocks ++ r.stylesheet (some .unknown) m.inlineStyles)

/-- The findings of a text of the given kind. -/
def findings (r : Reading) : SourceKind → Findings
  | .stylesheet => r.stylesheet none (scanStylesheet 0 false r.text)
  | .markup => r.markup (scanMarkup r.text)
  | .unknown => {}

end Reading

/-- The finding on a source that cannot be read. -/
def unreadableFinding (path : String) : Diagnostic :=
  Rule.inputError.finding s!"Cannot read '{path}': content is empty or not valid UTF-8"
    (.wholeFile path) [] "Check the file encoding and contents"

namespace Facts

/-- The facts of a source, before any rule is applied. -/
def collect (c : Config) (s : Source) : Facts :=
  let kind := SourceKind.ofPath s.path
  let isTheme := c.isTheme s.path
  if kind = .unknown then { path := s.path, kind, isTheme }
  else
    match s.content.decode with
    | none =>
      { path := s.path, kind, isTheme, excluded := true
        found := { diagnostics := [unreadableFinding s.path] } }
    | some text =>
      { path := s.path, kind, isTheme
        found := Reading.findings ⟨c, s.path, isTheme, text.toList⟩ kind }

/-- The findings of the rules that look at one source: naming, then layout. -/
def ruleFindings (c : Config) (f : Findings) : List Diagnostic :=
  f.occurrences.flatMap (Naming.check c) ++ f.classLists.flatMap ClassList.checkLayout

/-- The facts of a source with the findings of the rules that look at it alone. -/
def check (c : Config) (s : Source) : Facts :=
  let facts := collect c s
  if facts.kind = .unknown || facts.excluded then facts
  else
    { facts with
      found.diagnostics := facts.found.diagnostics ++ ruleFindings c facts.found }

end Facts

end BeamLint
