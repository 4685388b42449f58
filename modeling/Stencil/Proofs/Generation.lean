import Stencil.Generator
import Stencil.Proofs.Outcome

/-!
# Generation

A generation is the product of classes and templates: every class that is not left out with every
template, class by class. Each pair has its turn, with the filters that are shared by then. Either
all turns give their files, in order, or there are no files, and the first class that fails is
blamed: for its description, or for the first template that does not render.
-/

namespace Stencil

-- ---------------------------------------------------------------------------
-- Contexts of classes
-- ---------------------------------------------------------------------------

namespace ClassSpec

variable {spec : ClassSpec} {settings : Settings}

def context (spec : ClassSpec) (settings : Settings) : Context :=
  spec.extra.foldl addExtra (spec.computed settings)

theorem toContext_eq_ok_iff {found : Context} :
    spec.toContext settings = .ok found ↔
      spec.validateFor settings = .ok () ∧ spec.context settings = found := by
  unfold toContext context
  cases spec.validateFor settings <;> simp

theorem toContext_eq_error_iff {fault : Fault} :
    spec.toContext settings = .error fault ↔ spec.validateFor settings = .error fault := by
  unfold toContext
  cases spec.validateFor settings <;> simp

end ClassSpec

-- ---------------------------------------------------------------------------
-- Tabs
-- ---------------------------------------------------------------------------

/-- The content is the text with spaces for its tabs, or the text itself if tabs are kept. -/
def Settings.Indents (settings : Settings) (text content : String) : Prop :=
  if settings.indent = 0 then content = text
  else content.toList = (List.replicate settings.indent ' ').intercalate (text.toList.splitOn '\t')

theorem intercalate_modifyHead_cons {α : Type} (sep : List α) (a : α) {parts : List (List α)}
    (h : parts ≠ []) :
    sep.intercalate (parts.modifyHead (a :: ·)) = a :: sep.intercalate parts := by
  match parts, h with
  | [part], _ => simp
  | part :: next :: rest, _ => simp [List.intercalate_cons_cons]

theorem flatMap_eq_intercalate {α : Type} [DecidableEq α] (a : α) (sep text : List α) :
    (text.flatMap fun c => if c = a then sep else [c]) = sep.intercalate (text.splitOn a) := by
  induction text with
  | nil => simp
  | cons c text ih =>
    have hparts : text.splitOn a ≠ [] := List.splitOn_ne_nil a text
    rw [List.flatMap_cons, ih, List.splitOn_cons_eq_if_modifyHead]
    by_cases hc : c = a
    · obtain ⟨part, rest, hsplit⟩ := List.exists_cons_of_ne_nil hparts
      simp [hc, hsplit, List.intercalate_cons_cons]
    · simp [hc, intercalate_modifyHead_cons sep c hparts]

theorem Generator.indents_indentText (generator : Generator) (text : String) :
    generator.settings.Indents text (generator.indentText text) := by
  unfold Settings.Indents indentText
  split
  · rfl
  · simp [flatMap_eq_intercalate]

-- ---------------------------------------------------------------------------
-- Turns
-- ---------------------------------------------------------------------------

/-- A class and a template that a file is generated from, and the filters shared by then. -/
structure Turn where
  spec : ClassSpec
  output : OutputTemplate
  shared : FilterTable

namespace Generator

variable (generator : Generator)

def kept (specs : List ClassSpec) : List ClassSpec :=
  specs.filter fun spec => spec.name ∉ generator.settings.exclude

def rendering (turn : Turn) : Rendering :=
  turn.output.template.render (turn.spec.context generator.settings)
    (generator.filters?.getD turn.shared)

def Renders (turn : Turn) : Prop :=
  ∃ text, (generator.rendering turn).result = .ok text

theorem kept_cons (spec : ClassSpec) (specs : List ClassSpec) :
    generator.kept (spec :: specs) =
      if generator.settings.isExcluded spec.name then generator.kept specs
      else spec :: generator.kept specs := by
  simp only [kept, List.filter_cons, Settings.isExcluded, List.contains_iff_mem]
  split <;> simp_all

/-- The turns of pairs. What a render asks for is shared from the next turn on. -/
def turns (shared : FilterTable) : List (ClassSpec × OutputTemplate) → List Turn
  | [] => []
  | (spec, output) :: pairs =>
    let turn : Turn := ⟨spec, output, shared⟩
    turn :: turns (shared.extend (generator.rendering turn).requested) pairs

def sharedAfter (shared : FilterTable) : List (ClassSpec × OutputTemplate) → FilterTable
  | [] => shared
  | (spec, output) :: pairs =>
    sharedAfter (shared.extend (generator.rendering ⟨spec, output, shared⟩).requested) pairs

/-- The file of a turn: named for the class, and with the text that the template renders to
against the context of the class. -/
structure Gives (turn : Turn) (file : OutputFile) : Prop where
  path : file.path =
    generator.settings.filePrefix ++ turn.spec.name ++ "." ++ turn.output.extension
  template : file.template = turn.output.name
  className : file.className = turn.spec.name
  content : ∃ context text, turn.spec.toContext generator.settings = .ok context ∧
    (turn.output.template.render context (generator.filters?.getD turn.shared)).result = .ok text ∧
      generator.settings.Indents text file.content

/-- Every class is valid, and every template renders for it in its turn. -/
structure Passes (shared : FilterTable) (specs : List ClassSpec) : Prop where
  valid : ∀ spec ∈ specs, spec.validateFor generator.settings = .ok ()
  renders : ∀ turn ∈ generator.turns shared (specs ×ˢ generator.templates), generator.Renders turn

/-- The error of the first class that fails. A class that is not valid fails even if there are no
templates, and else it fails with the first template that does not render. -/
inductive FirstFailure (shared : FilterTable) (specs : List ClassSpec) : GenerationError → Prop
  | invalid {before spec after fault} (hspecs : specs = before ++ spec :: after)
      (hbefore : generator.Passes shared before)
      (hfault : spec.validateFor generator.settings = .error fault) :
      FirstFailure shared specs (.invalidClass fault)
  | render {before spec after front output back error} (hspecs : specs = before ++ spec :: after)
      (hbefore : generator.Passes shared before)
      (hvalid : spec.validateFor generator.settings = .ok ())
      (htemplates : generator.templates = front ++ output :: back)
      (hfront : ∀ turn ∈ generator.turns (generator.sharedAfter shared
        (before ×ˢ generator.templates)) (front.map (spec, ·)), generator.Renders turn)
      (herror : (generator.rendering ⟨spec, output, generator.sharedAfter shared
        (before ×ˢ generator.templates ++ front.map (spec, ·))⟩).result = .error error) :
      FirstFailure shared specs (.render output.name spec.name error)

section
variable {generator} {shared : FilterTable} {front back : List (ClassSpec × OutputTemplate)}

theorem turns_append : generator.turns shared (front ++ back) =
    generator.turns shared front ++ generator.turns (generator.sharedAfter shared front) back := by
  induction front generalizing shared with
  | nil => rfl
  | cons pair front ih => exact congrArg (List.cons _) ih

theorem sharedAfter_append : generator.sharedAfter shared (front ++ back) =
    generator.sharedAfter (generator.sharedAfter shared front) back := by
  induction front generalizing shared with
  | nil => rfl
  | cons pair front ih => exact ih

variable {spec : ClassSpec} {specs : List ClassSpec}

theorem passes_cons :
    generator.Passes shared (spec :: specs) ↔
      spec.validateFor generator.settings = .ok () ∧
        (∀ turn ∈ generator.turns shared (generator.templates.map (spec, ·)),
          generator.Renders turn) ∧
        generator.Passes (generator.sharedAfter shared (generator.templates.map (spec, ·)))
          specs := by
  constructor
  · rintro ⟨hvalid, hrenders⟩
    rw [List.forall_mem_cons] at hvalid
    rw [List.product_cons, turns_append, List.forall_mem_append] at hrenders
    exact ⟨hvalid.1, hrenders.1, hvalid.2, hrenders.2⟩
  · rintro ⟨hvalid, hrenders, hrest⟩
    refine ⟨List.forall_mem_cons.mpr ⟨hvalid, hrest.valid⟩, ?_⟩
    rw [List.product_cons, turns_append, List.forall_mem_append]
    exact ⟨hrenders, hrest.renders⟩

theorem FirstFailure.cons {error : GenerationError}
    (hvalid : spec.validateFor generator.settings = .ok ())
    (hrenders : ∀ turn ∈ generator.turns shared (generator.templates.map (spec, ·)),
      generator.Renders turn)
    (h : generator.FirstFailure
      (generator.sharedAfter shared (generator.templates.map (spec, ·))) specs error) :
    generator.FirstFailure shared (spec :: specs) error := by
  cases h with
  | @invalid before _ _ _ hspecs hbefore hfault =>
    exact .invalid (congrArg (List.cons spec) hspecs) (passes_cons.mpr ⟨hvalid, hrenders, hbefore⟩)
      hfault
  | @render before _ _ _ _ _ _ hspecs hbefore hspec htemplates hfront herror =>
    refine .render (congrArg (List.cons spec) hspecs)
      (passes_cons.mpr ⟨hvalid, hrenders, hbefore⟩) hspec htemplates ?_ ?_
    · rwa [List.product_cons, sharedAfter_append]
    · rwa [List.product_cons, List.append_assoc, sharedAfter_append]

theorem Passes.of_append {before after : List ClassSpec}
    (h : generator.Passes shared (before ++ after)) :
    generator.Passes (generator.sharedAfter shared (before ×ˢ generator.templates)) after := by
  induction before generalizing shared with
  | nil => exact h
  | cons spec before ih =>
    rw [List.product_cons, sharedAfter_append]
    exact ih (passes_cons.mp h).2.2

theorem FirstFailure.not_passes {error : GenerationError}
    (h : generator.FirstFailure shared specs error) : ¬generator.Passes shared specs := by
  intro hpasses
  cases h with
  | invalid hspecs hbefore hfault =>
    subst hspecs
    have hvalid := (passes_cons.mp hpasses.of_append).1
    simp [hvalid] at hfault
  | @render _ _ _ _ _ _ _ hspecs _ _ htemplates _ herror =>
    subst hspecs
    -- the template that is blamed has its turn among those of its class
    have hrenders := (passes_cons.mp hpasses.of_append).2.1
    rw [htemplates, List.map_append, turns_append, List.forall_mem_append] at hrenders
    obtain ⟨text, htext⟩ := hrenders.2 _ List.mem_cons_self
    rw [sharedAfter_append, htemplates] at herror
    simp [htext] at herror

end

-- ---------------------------------------------------------------------------
-- Runs
-- ---------------------------------------------------------------------------

section
variable {generator} {spec : ClassSpec}

theorem Gives.renders {turn : Turn} {file : OutputFile} (h : generator.Gives turn file) :
    generator.Renders turn := by
  obtain ⟨context, text, hcontext, htext, -⟩ := h.content
  obtain ⟨-, rfl⟩ := ClassSpec.toContext_eq_ok_iff.mp hcontext
  exact ⟨text, htext⟩

theorem renders_of_forall₂ {turns : List Turn} {files : List OutputFile}
    (h : List.Forall₂ generator.Gives turns files) : ∀ turn ∈ turns, generator.Renders turn := by
  induction h with
  | nil => simp
  | cons hgives _ ih => exact List.forall_mem_cons.mpr ⟨hgives.renders, ih⟩

theorem renderTemplate_ends (hvalid : spec.validateFor generator.settings = .ok ())
    (output : OutputTemplate) (shared : FilterTable) :
    EndsIn
      (fun file after => generator.Gives ⟨spec, output, shared⟩ file ∧
        after = generator.sharedAfter shared [(spec, output)])
      (fun error _ => ∃ fault,
        (generator.rendering ⟨spec, output, shared⟩).result = .error fault ∧
          error = .render output.name spec.name fault)
      (generator.renderTemplate spec.name (spec.context generator.settings) output shared) := by
  have hcontext := ClassSpec.toContext_eq_ok_iff.mpr ⟨hvalid, rfl⟩
  unfold renderTemplate
  cases hresult : (output.template.render (spec.context generator.settings)
    (generator.filters?.getD shared)).result with
  | error fault => simpa only [hresult] using ⟨fault, hresult, rfl⟩
  | ok text =>
    simp only [hresult]
    exact ⟨⟨rfl, rfl, rfl, _, text, hcontext, hresult, generator.indents_indentText text⟩, rfl⟩

theorem renderTemplates_ends (hvalid : spec.validateFor generator.settings = .ok ())
    (outputs : List OutputTemplate) (shared : FilterTable) :
    EndsIn
      (fun files after =>
        List.Forall₂ generator.Gives (generator.turns shared (outputs.map (spec, ·))) files ∧
          after = generator.sharedAfter shared (outputs.map (spec, ·)))
      (fun error _ => ∃ front output back fault, outputs = front ++ output :: back ∧
        (∀ turn ∈ generator.turns shared (front.map (spec, ·)), generator.Renders turn) ∧
          (generator.rendering ⟨spec, output, generator.sharedAfter shared
            (front.map (spec, ·))⟩).result = .error fault ∧
          error = .render output.name spec.name fault)
      (generator.renderTemplates spec.name (spec.context generator.settings) outputs shared) := by
  induction outputs generalizing shared with
  | nil => exact ⟨.nil, rfl⟩
  | cons output outputs ih =>
    refine (renderTemplate_ends hvalid output shared).bind ?_ ?_
    · rintro file middle ⟨hgives, rfl⟩
      refine (ih (generator.sharedAfter shared [(spec, output)])).bind ?_ ?_
      · rintro files after ⟨hfiles, rfl⟩
        exact ⟨.cons hgives hfiles, rfl⟩
      · rintro error after ⟨front, failing, back, fault, rfl, hfront, hfault, rfl⟩
        refine ⟨output :: front, failing, back, fault, rfl, ?_, hfault, rfl⟩
        exact List.forall_mem_cons.mpr ⟨hgives.renders, hfront⟩
    · rintro error after ⟨fault, hfault, rfl⟩
      exact ⟨[], output, outputs, fault, rfl, by simp [turns], hfault, rfl⟩

theorem generate_ends (specs : List ClassSpec) (shared : FilterTable) :
    EndsIn
      (fun files after =>
        generator.Passes shared (generator.kept specs) ∧
          List.Forall₂ generator.Gives
            (generator.turns shared (generator.kept specs ×ˢ generator.templates)) files ∧
          after = generator.sharedAfter shared (generator.kept specs ×ˢ generator.templates))
      (fun error _ => generator.FirstFailure shared (generator.kept specs) error)
      (generator.generate specs shared) := by
  induction specs generalizing shared with
  | nil => exact ⟨⟨by simp [kept], by simp [kept, turns]⟩, .nil, rfl⟩
  | cons spec specs ih =>
    by_cases hexcluded : generator.settings.isExcluded spec.name
    · simpa only [generate, kept_cons, hexcluded, if_true] using ih shared
    · simp only [generate, kept_cons, hexcluded, if_false, renderClass, Bool.false_eq_true]
      have hnone : generator.Passes shared [] := ⟨by simp, by simp [turns]⟩
      cases hcontext : spec.toContext generator.settings with
      | error fault =>
        exact .invalid (List.nil_append _).symm hnone
          (ClassSpec.toContext_eq_error_iff.mp hcontext)
      | ok context =>
        obtain ⟨hvalid, rfl⟩ := ClassSpec.toContext_eq_ok_iff.mp hcontext
        refine (renderTemplates_ends hvalid generator.templates shared).bind ?_ ?_
        · rintro files middle ⟨hfiles, rfl⟩
          have hrenders := renders_of_forall₂ hfiles
          -- the class passes, so the others begin with what is shared after it
          refine (ih (generator.sharedAfter shared (generator.templates.map (spec, ·)))).bind ?_ ?_
          · rintro others after ⟨hpasses, hothers, rfl⟩
            refine ⟨passes_cons.mpr ⟨hvalid, hrenders, hpasses⟩, ?_, ?_⟩
            · rw [List.product_cons, turns_append]
              exact List.rel_append hfiles hothers
            · rw [List.product_cons, sharedAfter_append]
          · rintro error after hfailure
            exact hfailure.cons hvalid hrenders
        · rintro error after ⟨front, output, back, fault, htemplates, hfront, hfault, rfl⟩
          exact .render (List.nil_append _).symm hnone hvalid htemplates hfront hfault

/-- A class that is left out makes no difference, valid or not. -/
theorem generate_kept (specs : List ClassSpec) :
    generator.generate (generator.kept specs) = generator.generate specs := by
  induction specs with
  | nil => rfl
  | cons spec specs ih =>
    by_cases hexcluded : generator.settings.isExcluded spec.name
    · simp only [generate, kept_cons, hexcluded, if_true, ih]
    · simp only [generate, kept_cons, hexcluded, if_false, ih, Bool.false_eq_true]

theorem turns_pairs (shared : FilterTable) (pairs : List (ClassSpec × OutputTemplate)) :
    (generator.turns shared pairs).map (fun turn => (turn.spec, turn.output)) = pairs := by
  induction pairs generalizing shared with
  | nil => rfl
  | cons pair pairs ih => exact congrArg (List.cons pair) (ih _)

end

end Generator

-- ---------------------------------------------------------------------------
-- Adding templates
-- ---------------------------------------------------------------------------

structure Registration where
  name : String
  extension : String
  source : String

namespace Registration

def compiles (call : Registration) : Bool :=
  (Template.compile call.source).isOk

/-- The template that a call adds. Its extension is the one of the call without the dots before. -/
structure Adds (call : Registration) (output : OutputTemplate) : Prop where
  name : output.name = call.name
  template : Template.compile call.source = .ok output.template
  extension : ∃ n, call.extension.toList = List.replicate n '.' ++ output.extension.toList
  bare : output.extension.toList.head? ≠ some '.'

end Registration

namespace Generator

def addTemplates (generator : Generator) (calls : List Registration) : Generator :=
  calls.foldl (fun generator call =>
    match generator.addTemplate call.name call.extension call.source with
    | .ok added => added
    | .error _ => generator) generator

theorem dropWhile_dots (text : List Char) :
    (∃ n, text = List.replicate n '.' ++ text.dropWhile (· == '.')) ∧
      (text.dropWhile (· == '.')).head? ≠ some '.' := by
  refine ⟨⟨(text.takeWhile (· == '.')).length, ?_⟩, fun h => ?_⟩
  · have hdots : text.takeWhile (· == '.') =
        List.replicate (text.takeWhile (· == '.')).length '.' :=
      List.eq_replicate_iff.mpr ⟨rfl, fun c hc => by simpa using List.mem_takeWhile_imp hc⟩
    rw [← hdots, List.takeWhile_append_dropWhile]
  · have hhead := List.head?_dropWhile_not (· == '.') text
    simp [h] at hhead

theorem addTemplate_eq_ok {generator added : Generator} {call : Registration}
    (h : generator.addTemplate call.name call.extension call.source = .ok added) :
    call.compiles = true ∧ ∃ output, call.Adds output ∧
      added = { generator with templates := generator.templates ++ [output] } := by
  unfold addTemplate at h
  cases hcompile : Template.compile call.source with
  | error error => simp [hcompile] at h
  | ok template =>
    simp only [hcompile, Except.ok.injEq] at h
    obtain ⟨hdots, hbare⟩ := dropWhile_dots call.extension.toList
    refine ⟨by simp [Registration.compiles, hcompile, Except.isOk, Except.toBool], _,
      ⟨rfl, hcompile, ?_, ?_⟩, h.symm⟩
    · simpa using hdots
    · simpa using hbare

theorem addTemplate_eq_error {generator : Generator} {call : Registration}
    {error : GenerationError}
    (h : generator.addTemplate call.name call.extension call.source = .error error) :
    call.compiles = false := by
  unfold addTemplate at h
  cases hcompile : Template.compile call.source with
  | error error => simp [Registration.compiles, hcompile, Except.isOk, Except.toBool]
  | ok template => simp [hcompile] at h

/-- Only the calls that compile add something, and each adds its own template at the end. -/
theorem addTemplates_adds (generator : Generator) (calls : List Registration) :
    ∃ outputs, List.Forall₂ Registration.Adds (calls.filter Registration.compiles) outputs ∧
      generator.addTemplates calls =
        { generator with templates := generator.templates ++ outputs } := by
  induction calls generalizing generator with
  | nil => exact ⟨[], .nil, by simp [addTemplates]⟩
  | cons call calls ih =>
    rw [addTemplates, List.foldl_cons]
    cases hadd : generator.addTemplate call.name call.extension call.source with
    | error error =>
      obtain ⟨outputs, hadds, heq⟩ := ih generator
      refine ⟨outputs, ?_, heq⟩
      rwa [List.filter_cons_of_neg (by simp [addTemplate_eq_error hadd])]
    | ok added =>
      obtain ⟨hcompiles, output, houtput, rfl⟩ := addTemplate_eq_ok hadd
      obtain ⟨outputs, hadds, heq⟩ :=
        ih { generator with templates := generator.templates ++ [output] }
      refine ⟨output :: outputs, ?_, heq.trans (by simp)⟩
      rw [List.filter_cons_of_pos hcompiles]
      exact .cons houtput hadds

theorem addTemplates_filter (generator : Generator) (calls : List Registration) :
    generator.addTemplates (calls.filter Registration.compiles) = generator.addTemplates calls := by
  induction calls generalizing generator with
  | nil => rfl
  | cons call calls ih =>
    cases hadd : generator.addTemplate call.name call.extension call.source with
    | error error =>
      rw [List.filter_cons_of_neg (by simp [addTemplate_eq_error hadd]), ih]
      simp only [addTemplates, List.foldl_cons, hadd]
    | ok added =>
      rw [List.filter_cons_of_pos (addTemplate_eq_ok hadd).1]
      simp only [addTemplates, List.foldl_cons, hadd]
      exact ih added

/-- Whatever calls are made and whatever classes are given, a generator holds the templates of the
calls that compile, as if the others had not been made, and its generation is the ordered product
of the classes that are not left out and these templates. It succeeds when all classes are valid
and all templates render for them, each in its turn, and then each turn has given one file. If not,
it stops with the error of the first class that fails. -/
theorem generate_product (settings : Settings) (filters? : Option FilterTable)
    (calls : List Registration) (specs : List ClassSpec) (shared : FilterTable) :
    let generator := (ofSettings settings filters?).addTemplates calls
    let accepted := calls.filter Registration.compiles
    let kept := specs.filter fun spec => spec.name ∉ settings.exclude
    let turns := generator.turns shared (kept ×ˢ generator.templates)
    (generator = (ofSettings settings filters?).addTemplates accepted ∧
        generator.settings = settings ∧ generator.filters? = filters? ∧
        List.Forall₂ Registration.Adds accepted generator.templates) ∧
      ((∃ files after, generator.generate specs shared = .ok files after) ↔
        generator.Passes shared kept) ∧
      (∀ files after, generator.generate specs shared = .ok files after →
        turns.map (fun turn => (turn.spec, turn.output)) = kept ×ˢ generator.templates ∧
          List.Forall₂ generator.Gives turns files ∧
          after = generator.sharedAfter shared (kept ×ˢ generator.templates)) ∧
      (∀ error after, generator.generate specs shared = .error error after →
        generator.FirstFailure shared kept error) ∧
      generator.generate specs = generator.generate kept := by
  intro generator accepted kept turns
  obtain ⟨outputs, hadds, hgenerator⟩ := addTemplates_adds (ofSettings settings filters?) calls
  have hsettings : generator.settings = settings := congrArg Generator.settings hgenerator
  have hfilters : generator.filters? = filters? := congrArg Generator.filters? hgenerator
  have htemplates : generator.templates = outputs := congrArg Generator.templates hgenerator
  have hkept : generator.kept specs = kept := by rw [Generator.kept, hsettings]
  have hends := generator.generate_ends specs shared
  rw [hkept] at hends
  refine ⟨⟨(addTemplates_filter _ calls).symm, hsettings, hfilters, htemplates ▸ hadds⟩, ⟨?_, ?_⟩,
    ?_, ?_, by rw [← hkept, generate_kept]⟩
  · rintro ⟨files, after, hrun⟩
    rw [hrun] at hends
    exact hends.1
  · intro hpasses
    cases hrun : generator.generate specs shared with
    | ok files after => exact ⟨files, after, rfl⟩
    | error error after =>
      rw [hrun] at hends
      exact absurd hpasses hends.not_passes
  · intro files after hrun
    rw [hrun] at hends
    exact ⟨turns_pairs shared _, hends.2⟩
  · intro error after hrun
    rw [hrun] at hends
    exact hends

theorem generate_product_partial :
    let generator := (ofSettings ⟨"X", 2, ["Skip"], true⟩ none).addTemplates
      [⟨"head", "..h", "\t\x7b\x7b name \x7d\x7d"⟩, ⟨"broken", "c", "\x7b%"⟩]
    let skipped : ClassSpec := ⟨"Skip", none, none, [], [], [], []⟩
    let good : ClassSpec := { skipped with name := "A" }
    let bad : ClassSpec := { skipped with name := "9" }
    let files : List OutputFile := [⟨"XA.h", "head", "A", "  A"⟩]
    let error : GenerationError := .invalidClass (.className "9")
    (generator.generate [skipped, good] [] = .ok files [] ∧
      List.Forall₂ generator.Gives (generator.turns [] ([good] ×ˢ generator.templates)) files) ∧
    generator.generate [good, bad] [] = .error error [] ∧
      generator.FirstFailure [] [good, bad] error := by
  have hgenerator : (ofSettings ⟨"X", 2, ["Skip"], true⟩ none).addTemplates
      [⟨"head", "..h", "\t\x7b\x7b name \x7d\x7d"⟩, ⟨"broken", "c", "\x7b%"⟩] =
      ⟨⟨"X", 2, ["Skip"], true⟩, [⟨"head", "h", ⟨[.literal "\t", .output ⟨"name", []⟩ [] 1]⟩⟩],
        none⟩ := by rfl
  have hgood : Generator.generate ⟨⟨"X", 2, ["Skip"], true⟩,
      [⟨"head", "h", ⟨[.literal "\t", .output ⟨"name", []⟩ [] 1]⟩⟩], none⟩
      [⟨"Skip", none, none, [], [], [], []⟩, ⟨"A", none, none, [], [], [], []⟩] [] =
      .ok [⟨"XA.h", "head", "A", "  A"⟩] [] := by rfl
  have hbad : Generator.generate ⟨⟨"X", 2, ["Skip"], true⟩,
      [⟨"head", "h", ⟨[.literal "\t", .output ⟨"name", []⟩ [] 1]⟩⟩], none⟩
      [⟨"A", none, none, [], [], [], []⟩, ⟨"9", none, none, [], [], [], []⟩] [] =
      .error (.invalidClass (.className "9")) [] := by rfl
  rw [← hgenerator] at hgood hbad
  have hproduct := generate_product ⟨"X", 2, ["Skip"], true⟩ none
    [⟨"head", "..h", "\t\x7b\x7b name \x7d\x7d"⟩, ⟨"broken", "c", "\x7b%"⟩]
  exact ⟨⟨hgood, ((hproduct _ _).2.2.1 _ _ hgood).2.1⟩, hbad, (hproduct _ _).2.2.2.1 _ _ hbad⟩

end Generator

end Stencil
