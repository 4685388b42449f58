import Stencil.Proofs.Usability

/-!
# Paths of files

No generated file takes the place of another. A path is the text of its class and its extension with
a dot between them, and a class that passes has no dot in its name, so the first dot after the
common beginning tells where the name ends. Different classes and different extensions then give
different paths, whatever dots the extensions and the common beginning hold.
-/

namespace Stencil

theorem map_eq_map_of_forall₂ {α β γ : Type} {R : α → β → Prop} {f : α → γ} {g : β → γ}
    {first : List α} {second : List β} (h : List.Forall₂ R first second)
    (hR : ∀ a b, R a b → g b = f a) : second.map g = first.map f := by
  induction h with
  | nil => rfl
  | cons hab _ ih => rw [List.map_cons, List.map_cons, hR _ _ hab, ih]

namespace Generator

variable {generator : Generator} {specs : List ClassSpec} {shared after : FilterTable}
  {files : List OutputFile}

theorem toList_outputPath (generator : Generator) (className extension : String) :
    (generator.outputPath className extension).toList =
      generator.settings.filePrefix.toList ++ (className.toList ++ '.' :: extension.toList) := by
  simp [outputPath]

/-- The path tells the class and the extension that it is made of. -/
theorem outputPath_inj {a b first second : String} (ha : Text.isIdentifier a.toList = true)
    (hb : Text.isIdentifier b.toList = true) :
    generator.outputPath a first = generator.outputPath b second ↔ a = b ∧ first = second := by
  refine ⟨fun h => ?_, by rintro ⟨rfl, rfl⟩; rfl⟩
  have hplain : ∀ {name : String}, Text.isIdentifier name.toList = true →
      ∀ c ∈ name.toList, (c == '.') = false := fun hname =>
    Text.beq_eq_false_of_not_mem (Text.not_mem_of_isIdentifier hname (by decide))
  have htexts := congrArg String.toList h
  rw [toList_outputPath, toList_outputPath] at htexts
  have hnamed := List.append_cancel_left htexts
  have hsplit := congrArg (fun text => (Text.split (· == '.') text).1) hnamed
  simp only [Text.split_append_cons _ (hplain ha) (beq_self_eq_true '.'),
    Text.split_append_cons _ (hplain hb) (beq_self_eq_true '.')] at hsplit
  rw [hsplit] at hnamed
  exact ⟨String.toList_inj.mp hsplit,
    String.toList_inj.mp (List.cons.inj (List.append_cancel_left hnamed)).2⟩

theorem paths_of_generate (h : generator.generate specs shared = .ok files after) :
    files.map OutputFile.path = (generator.kept specs ×ˢ generator.templates).map fun pair =>
      generator.outputPath pair.1.name pair.2.extension := by
  have hends := generator.generate_ends specs shared
  rw [h] at hends
  obtain ⟨-, hgives, -⟩ := hends
  have hpairs : (generator.turns shared (generator.kept specs ×ˢ generator.templates)).map
      (fun turn => (turn.spec, turn.output)) = generator.kept specs ×ˢ generator.templates :=
    turns_pairs shared _
  conv_rhs => rw [← hpairs, List.map_map]
  exact map_eq_map_of_forall₂ hgives fun _ _ hfile => hfile.path

theorem isIdentifier_of_generate (h : generator.generate specs shared = .ok files after) :
    ∀ spec ∈ generator.kept specs, Text.isIdentifier spec.name.toList = true := by
  have hends := generator.generate_ends specs shared
  rw [h] at hends
  obtain ⟨hpasses, -⟩ := hends
  intro spec hspec
  exact (ClassSpec.validateFor_eq_ok_iff_usable.mp (hpasses.valid spec hspec)).1

theorem nodup_paths_of_generate (h : generator.generate specs shared = .ok files after)
    (hnames : (specs.map ClassSpec.name).Nodup)
    (hextensions : (generator.templates.map OutputTemplate.extension).Nodup) :
    (files.map OutputFile.path).Nodup := by
  have hkept : ((generator.kept specs).map ClassSpec.name).Nodup :=
    hnames.sublist (List.filter_sublist.map ClassSpec.name)
  have hidentifier := isIdentifier_of_generate h
  have hpairs : (generator.kept specs ×ˢ generator.templates).Nodup :=
    .product (.of_map _ hkept) (.of_map _ hextensions)
  rw [paths_of_generate h]
  refine hpairs.map_on ?_
  rintro ⟨a, first⟩ ha ⟨b, second⟩ hb hpath
  obtain ⟨ha, hfirst⟩ := List.mem_product.mp ha
  obtain ⟨hb, hsecond⟩ := List.mem_product.mp hb
  obtain ⟨hname, hextension⟩ := (outputPath_inj (hidentifier a ha) (hidentifier b hb)).mp hpath
  exact Prod.ext (List.inj_on_of_nodup_map hkept ha hb hname)
    (List.inj_on_of_nodup_map hextensions hfirst hsecond hextension)

end Generator

-- ---------------------------------------------------------------------------
-- Extensions
-- ---------------------------------------------------------------------------

namespace Registration

def bareExtension (call : Registration) : List Char :=
  call.extension.toList.dropWhile (· == '.')

theorem Adds.toList_extension {call : Registration} {output : OutputTemplate}
    (h : call.Adds output) : output.extension.toList = call.bareExtension := by
  obtain ⟨n, hdots⟩ := h.extension
  have hbare := h.bare
  rw [bareExtension, hdots, List.dropWhile_append_of_pos (by simp)]
  cases hextension : output.extension.toList with
  | nil => rfl
  | cons c rest =>
    rw [hextension] at hbare
    rw [List.dropWhile_cons_of_neg (by simpa using hbare)]

end Registration

namespace Generator

theorem map_extension_addTemplates (settings : Settings) (filters? : Option FilterTable)
    (calls : List Registration) :
    ((ofSettings settings filters?).addTemplates calls).templates.map (·.extension.toList) =
      (calls.filter Registration.compiles).map Registration.bareExtension := by
  obtain ⟨outputs, hadds, hgenerator⟩ := addTemplates_adds (ofSettings settings filters?) calls
  rw [hgenerator]
  exact map_eq_map_of_forall₂ hadds fun _ _ hadd => hadd.toList_extension

/-- Whatever templates a generator has been given, if no two of those that compile have the same
extension but for the dots before it, and no two classes the same name, then no two files of a run
have the same path. -/
theorem nodup_paths {settings : Settings} {filters? : Option FilterTable}
    {calls : List Registration} {specs : List ClassSpec} {shared after : FilterTable}
    {files : List OutputFile}
    (hextensions : ((calls.filter Registration.compiles).map Registration.bareExtension).Nodup)
    (hnames : (specs.map ClassSpec.name).Nodup)
    (hrun : ((ofSettings settings filters?).addTemplates calls).generate specs shared =
      .ok files after) :
    (files.map OutputFile.path).Nodup := by
  refine nodup_paths_of_generate hrun hnames (.of_map String.toList ?_)
  rw [List.map_map]
  exact map_extension_addTemplates settings filters? calls ▸ hextensions

/-- One extension may end in another, and the one of a template that does not compile is free. -/
theorem nodup_paths_dotted :
    let calls : List Registration := [⟨"types", "..d.ts", "\x7b\x7b name \x7d\x7d"⟩,
      ⟨"broken", "ts", "\x7b%"⟩, ⟨"code", ".ts", ""⟩]
    let specs : List ClassSpec := [⟨"Skip", none, none, [], [], [], []⟩,
      ⟨"A", none, none, [], [], [], []⟩, ⟨"Ad", none, none, [], [], [], []⟩]
    let generator := (ofSettings ⟨"x.", 2, ["Skip"], true⟩ none).addTemplates calls
    ((calls.filter Registration.compiles).map Registration.bareExtension).Nodup ∧
      (specs.map ClassSpec.name).Nodup ∧ ∃ files, generator.generate specs [] = .ok files [] ∧
        files.map OutputFile.path = ["x.A.d.ts", "x.A.ts", "x.Ad.d.ts", "x.Ad.ts"] ∧
        (files.map OutputFile.path).Nodup := by
  have hrun : Generator.generate ⟨⟨"x.", 2, ["Skip"], true⟩,
      [⟨"types", "d.ts", ⟨[.output ⟨"name", []⟩ [] 0]⟩⟩, ⟨"code", "ts", ⟨[]⟩⟩], none⟩
      [⟨"Skip", none, none, [], [], [], []⟩, ⟨"A", none, none, [], [], [], []⟩,
        ⟨"Ad", none, none, [], [], [], []⟩] [] =
      .ok [⟨"x.A.d.ts", "types", "A", "A"⟩, ⟨"x.A.ts", "code", "A", ""⟩,
        ⟨"x.Ad.d.ts", "types", "Ad", "Ad"⟩, ⟨"x.Ad.ts", "code", "Ad", ""⟩] [] := by rfl
  intro calls specs generator
  have hgenerator : generator = ⟨⟨"x.", 2, ["Skip"], true⟩,
      [⟨"types", "d.ts", ⟨[.output ⟨"name", []⟩ [] 0]⟩⟩, ⟨"code", "ts", ⟨[]⟩⟩], none⟩ := by rfl
  rw [← hgenerator] at hrun
  have haccepted : calls.filter Registration.compiles =
      [⟨"types", "..d.ts", "\x7b\x7b name \x7d\x7d"⟩, ⟨"code", ".ts", ""⟩] := by rfl
  have hextensions : ((calls.filter Registration.compiles).map
      Registration.bareExtension).Nodup := by
    rw [haccepted]
    decide
  have hnames : (specs.map ClassSpec.name).Nodup := by decide
  exact ⟨hextensions, hnames, _, hrun, rfl, nodup_paths hextensions hnames hrun⟩

end Generator

end Stencil
