import Mathlib.Data.List.Induction
import StationBench.CommandLine.Options
import StationBench.Proofs.Ascending
import StationBench.Proofs.Lookup
import StationBench.Settings.Loading
/-!
# Which layer of settings wins

Settings come from the defaults, the settings file, the environment and the command line, each of
which goes before those that are named before it. The file and the environment are laid on top of
one another before anything is read (`Layer.find?_atop_of_givesWhole`); the options change the
settings afterwards (`Options.apply`). The main result, `Settings.layers_have_precedence`, is about
layers that give the settings as a whole: what `only[0]` gives is not a setting but an item.
-/
namespace StationBench

/-! ## Settings that are given as a whole -/

namespace Reference

theorem eq_nil_of_way? {cs : List Char} (h : way? cs = some []) : cs = [] := by
  unfold way? at h
  split at h
  · rfl
  · dsimp only at h
    split at h
    · cases h
    · obtain ⟨_, -, hcons⟩ := Option.map_eq_some_iff.1 h
      cases hcons
  · split at h
    · split at h
      · obtain ⟨_, -, hcons⟩ := Option.map_eq_some_iff.1 h
        cases hcons
      · cases h
    · cases h
  · cases h

/-- A name that leads to no part stands for itself. -/
theorem setting_ofName {name : String} (h : (ofName name).way = []) :
    (ofName name).setting = name := by
  unfold ofName at h ⊢
  dsimp only at h ⊢
  split at h
  · next way hway =>
    split at h
    · next hempty => rw [if_pos hempty]
    · next hempty =>
      obtain rfl : way = [] := h
      have hall := List.takeWhile_append_dropWhile (p := isNameChar) (l := name.toList)
      rw [eq_nil_of_way? hway, List.append_nil] at hall
      rw [if_neg hempty]
      exact (congrArg String.ofList hall).trans String.ofList_toList
  · rfl

end Reference

namespace Layer

/-- No name in a layer leads to a part of a setting. -/
def GivesWhole (layer : Layer) (name : String) : Prop :=
  ∀ e ∈ layer.entries, (Reference.ofName e.1).setting = name → (Reference.ofName e.1).way = []

instance (layer : Layer) (name : String) : Decidable (layer.GivesWhole name) :=
  inferInstanceAs (Decidable (∀ _ ∈ _, _))

/-- **Of two layers that give a setting as a whole the upper one wins**, but the members of a group
join those of a group below. -/
theorem find?_atop_of_givesWhole {upper : Layer} (hupper : upper.Ascending) {name : String}
    (hname : Reference.ofName name = ⟨name, []⟩) (h : upper.GivesWhole name) (lower : Layer) :
    (upper.atop lower).find? name =
      ((upper.find? name).map (·.onto (lower.find? name))).or (lower.find? name) := by
  obtain ⟨entries⟩ := upper
  induction entries with
  | nil => rfl
  | cons e rest ih =>
    obtain ⟨k, g⟩ := e
    obtain ⟨hhead, hrest⟩ := List.pairwise_cons.1 hupper
    have hwhole : Layer.GivesWhole ⟨rest⟩ name := fun e he => h e (List.mem_cons_of_mem _ he)
    have hset : Layer.atop ⟨(k, g) :: rest⟩ lower =
        (Layer.atop ⟨rest⟩ lower).set (.ofName k) g := rfl
    rw [hset, find?_set]
    by_cases hk : name = (Reference.ofName k).setting
    · have hway := h (k, g) List.mem_cons_self hk.symm
      obtain rfl : name = k := hk.trans (Reference.setting_ofName hway)
      -- no other name of the layer leads to the setting
      have hothers : ∀ e ∈ rest, name ≠ (Reference.ofName e.1).setting := by
        rintro e he heq
        have hlt := hhead e he
        rw [← Reference.setting_ofName (hwhole e he heq.symm), ← heq] at hlt
        exact Std.lt_irrefl hlt
      have hbelow : (Layer.atop ⟨rest⟩ lower).find? name = lower.find? name :=
        find?_atop_of_forall_ne lower hothers
      rw [if_pos hk, hname, hbelow]
      simp [Table.find?, Given.put]
    · have hne : name ≠ k := by
        rintro rfl
        rw [hname] at hk
        exact hk rfl
      rw [if_neg hk, ih hrest hwhole]
      simp [Table.find?, lookup_cons_of_ne hne]

/-! ## The environment -/

/-- The text that the environment gives a setting: that of its last variable of that name. -/
def environmentText? (environment : List (String × String)) (name : String) : Option String :=
  ((environment.filter fun v => environmentName? v.1 = some name).getLast?).map Prod.snd

theorem find?_ofEnvironment (environment : List (String × String)) (name : String) :
    (ofEnvironment environment).find? name =
      (environmentText? environment name).map fun text =>
        .scalar (.string text) (some .environment) := by
  induction environment using List.reverseRecOn with
  | nil => rfl
  | append_singleton environment v ih =>
    obtain ⟨key, text⟩ := v
    simp only [ofEnvironment, environmentText?, List.filterMap_append, List.filter_append] at ih ⊢
    cases hkey : environmentName? key with
    | none => simpa [hkey] using ih
    | some key' =>
      by_cases hname : name = key'
      · subst hname
        simp [hkey, Table.ofList, List.foldl_append, Table.find?_insert]
      · have hne : key' ≠ name := Ne.symm hname
        simpa [hkey, hne, hname, Table.ofList, List.foldl_append, Table.find?_insert] using ih

theorem ascending_ofEnvironment (environment : List (String × String)) :
    (ofEnvironment environment).Ascending := Table.ascending_ofList _

/-- What the environment gives takes the place of what is below. -/
theorem find?_environment_atop {environment : List (String × String)} {name : String}
    (hname : Reference.ofName name = ⟨name, []⟩)
    (h : (ofEnvironment environment).GivesWhole name) (lower : Layer) :
    ((ofEnvironment environment).atop lower).find? name =
      ((environmentText? environment name).map fun text =>
        Given.scalar (.string text) (some .environment)).or (lower.find? name) := by
  rw [find?_atop_of_givesWhole (ascending_ofEnvironment environment) hname h,
    find?_ofEnvironment, Option.map_map]
  rfl

end Layer

/-! ## Groups are no settings -/

namespace Given

def isGroup : Given → Bool
  | .group _ _ => true
  | _ => false

theorem isGroup_membersOnto {members : List (String × Given)} {there : Given}
    (h : there.isGroup = true) : (membersOnto members there).isGroup = true := by
  induction members generalizing there with
  | nil => exact h
  | cons m rest ih =>
    rw [membersOnto]
    apply ih
    cases there <;> rfl

/-- A group that is put where nothing is stays a group, and anything else stays what it is. -/
theorem onto_none (g : Given) :
    g.onto none = g ∨ g.isGroup = true ∧ (g.onto none).isGroup = true := by
  cases g with
  | group members origin => exact Or.inr ⟨rfl, isGroup_membersOnto rfl⟩
  | scalar | list => exact Or.inl rfl

/-- A way to read settings that no group can be read in. -/
def RefusesGroups {α : Type} (read : Given → Except SettingsFault α) : Prop :=
  ∀ g a, g.isGroup = true → read g ≠ .ok a

theorem refusesGroups_expect {α : Type} {expected : String} {spot : Spot}
    {found : Given → Json.Found} {take : Scalar → Option α} :
    RefusesGroups fun g => g.expect expected spot (found g) (g.scalar?.bind take) := by
  intro g a hg
  cases g with
  | group members origin => rintro ⟨⟩
  | _ => cases hg

theorem refusesGroups_readBool (name : String) : RefusesGroups (readBool name) :=
  refusesGroups_expect

theorem refusesGroups_readUInt64 (name : String) : RefusesGroups (readUInt64 name) := by
  intro g a hg h
  obtain ⟨_, h, -⟩ := ok_of_map h
  exact refusesGroups_expect g _ hg h

theorem refusesGroups_readText (spot : Spot) : RefusesGroups (readText spot) :=
  refusesGroups_expect

theorem refusesGroups_readDuration : RefusesGroups readDuration := by
  intro g a hg
  cases g with
  | group members origin => rintro ⟨⟩
  | _ => cases hg

theorem RefusesGroups.readOptional {α : Type} {read : Given → Except SettingsFault α}
    (h : RefusesGroups read) : RefusesGroups (readOptional read) := by
  intro g o hg ho
  cases g with
  | group members origin =>
    obtain ⟨a, ha, -⟩ := ok_of_map ho
    exact h _ a hg ha
  | _ => cases hg

theorem refusesGroups_readTexts (name : String) : RefusesGroups (readTexts name) := by
  intro g a hg
  cases g with
  | group members origin => rintro ⟨⟩
  | _ => cases hg

end Given

namespace Settings

/-! ## Settings from the layers -/

/-- The names of the settings. -/
def names : List String :=
  ["seed", "per_test_seed", "continue_on_failure", "realtime", "timeout", "rng_min_ms",
    "rng_max_ms", "report", "only"]

theorem ofName_of_mem_names {name : String} (h : name ∈ names) :
    Reference.ofName name = ⟨name, []⟩ := by
  apply Reference.ofName_of_all
  revert name
  decide

/-- What a setting is given by the environment and a settings file: the text of its variable, if
there is one, else what the file gives, if it does, else the default. -/
def Wins {α : Type} (environment : List (String × String)) (file : Layer) (name : String)
    (read : String → Given → Except SettingsFault α) (default a : α) : Prop :=
  match Layer.environmentText? environment name, file.find? name with
  | some text, _ => read name (.scalar (.string text) (some .environment)) = .ok a
  | none, some g => read name g = .ok a
  | none, none => a = default

/-- Settings each of which is given by the environment or a settings file or has its default. -/
structure LayeredFrom (environment : List (String × String)) (file : Layer) (s : Settings) :
    Prop where
  seed : Wins environment file "seed" Given.readUInt64 ({} : Settings).seed s.seed
  perTestSeed : Wins environment file "per_test_seed" Given.readBool ({} : Settings).perTestSeed
    s.perTestSeed
  continueOnFailure : Wins environment file "continue_on_failure" Given.readBool
    ({} : Settings).continueOnFailure s.continueOnFailure
  realtime : Wins environment file "realtime" Given.readBool ({} : Settings).realtime s.realtime
  timeout : Wins environment file "timeout" (fun _ => Given.readOptional Given.readDuration)
    ({} : Settings).timeout s.timeout
  rngMin : Wins environment file "rng_min_ms" Given.readUInt64 ({} : Settings).rngMin s.rngMin
  rngMax : Wins environment file "rng_max_ms" Given.readUInt64 ({} : Settings).rngMax s.rngMax
  report : Wins environment file "report"
    (fun name => Given.readOptional (Given.readText (.setting name))) ({} : Settings).report
    s.report
  only : Wins environment file "only" Given.readTexts ({} : Settings).only s.only

theorem ascending_fileLayer {read : String → Except FileFault String} {name : String}
    {places : List (String × Option FileFormat)} {lower : Layer}
    (h : fileLayer read name places = .ok lower) : lower.Ascending := by
  induction places with
  | nil => cases h
  | cons place rest ih =>
    obtain ⟨candidate, written⟩ := place
    rw [fileLayer] at h
    split at h
    · split at h
      · cases h
      · split at h
        · obtain rfl := Except.ok.inj h
          exact Table.ascending_ofList _
        · cases h
    · cases h
    · exact ih h

/-- Whatever a file is written in, it gives a layer. -/
theorem ascending_fileSettings {formats : List FileFormat}
    {read : String → Except FileFault String} {file : Option String} {lower : Layer}
    (h : fileSettings formats read file = .ok lower) : lower.Ascending := by
  cases file with
  | some name => exact ascending_fileLayer h
  | none =>
    obtain rfl := Except.ok.inj h
    exact List.Pairwise.nil

/-! ## Reading the layers -/

section
variable {environment : List (String × String)} {lower : Layer} {name : String}
  (hascending : lower.Ascending) (hname : name ∈ names) (hlower : lower.GivesWhole name)
  (henvironment : (Layer.ofEnvironment environment).GivesWhole name)
include hascending hname hlower henvironment

/-- A setting in both layers: what the environment gives, else what the file gives. -/
theorem find?_layers :
    ((Layer.ofEnvironment environment).atop (lower.atop {})).find? name =
      ((Layer.environmentText? environment name).map fun text =>
        Given.scalar (.string text) (some .environment)).or
          ((lower.find? name).map (·.onto none)) := by
  have hplain := ofName_of_mem_names hname
  rw [Layer.find?_environment_atop hplain henvironment,
    Layer.find?_atop_of_givesWhole hascending hplain hlower]
  exact congrArg _ Option.or_none

theorem get_eq_ok_iff {α : Type} {read : String → Given → Except SettingsFault α}
    (hread : Given.RefusesGroups (read name)) {default a : α} :
    get ((Layer.ofEnvironment environment).atop (lower.atop {})) name read default = .ok a ↔
      Wins environment lower name read default a := by
  rw [get, find?_layers hascending hname hlower henvironment, Wins]
  cases Layer.environmentText? environment name with
  | some text => exact Iff.rfl
  | none =>
    cases lower.find? name with
    | none => exact ⟨fun h => (Except.ok.inj h).symm, fun h => congrArg Except.ok h.symm⟩
    | some g =>
      rcases g.onto_none with hsame | ⟨hgroup, hgroup'⟩
      · simp [hsame]
      · exact ⟨fun h => absurd h (hread _ a hgroup'), fun h => absurd h (hread g a hgroup)⟩

end

theorem ofLayer_eq_ok_iff {layer : Layer} {s : Settings} :
    ofLayer layer = .ok s ↔
      get layer "seed" Given.readUInt64 ({} : Settings).seed = .ok s.seed ∧
      get layer "per_test_seed" Given.readBool ({} : Settings).perTestSeed = .ok s.perTestSeed ∧
      get layer "continue_on_failure" Given.readBool ({} : Settings).continueOnFailure =
        .ok s.continueOnFailure ∧
      get layer "realtime" Given.readBool ({} : Settings).realtime = .ok s.realtime ∧
      get layer "timeout" (fun _ => Given.readOptional Given.readDuration)
        ({} : Settings).timeout = .ok s.timeout ∧
      get layer "rng_min_ms" Given.readUInt64 ({} : Settings).rngMin = .ok s.rngMin ∧
      get layer "rng_max_ms" Given.readUInt64 ({} : Settings).rngMax = .ok s.rngMax ∧
      get layer "report" (fun name => Given.readOptional (Given.readText (.setting name)))
        ({} : Settings).report = .ok s.report ∧
      get layer "only" Given.readTexts ({} : Settings).only = .ok s.only := by
  constructor
  · intro h
    obtain ⟨seed, hseed, h⟩ := ok_of_bind h
    obtain ⟨perTestSeed, hperTestSeed, h⟩ := ok_of_bind h
    obtain ⟨continueOnFailure, hcontinue, h⟩ := ok_of_bind h
    obtain ⟨realtime, hrealtime, h⟩ := ok_of_bind h
    obtain ⟨timeout, htimeout, h⟩ := ok_of_bind h
    obtain ⟨rngMin, hrngMin, h⟩ := ok_of_bind h
    obtain ⟨rngMax, hrngMax, h⟩ := ok_of_bind h
    obtain ⟨report, hreport, h⟩ := ok_of_bind h
    obtain ⟨only, honly, h⟩ := ok_of_bind h
    obtain rfl := Except.ok.inj h
    exact ⟨hseed, hperTestSeed, hcontinue, hrealtime, htimeout, hrngMin, hrngMax, hreport, honly⟩
  · rintro ⟨hseed, hperTestSeed, hcontinue, hrealtime, htimeout, hrngMin, hrngMax, hreport, honly⟩
    simp only [ofLayer, hseed, hperTestSeed, hcontinue, hrealtime, htimeout, hrngMin, hrngMax,
      hreport, honly]
    rfl

/-- What is read depends on the settings alone, not on other names in the layer. -/
theorem ofLayer_congr {layer layer' : Layer}
    (h : ∀ name ∈ names, layer'.find? name = layer.find? name) :
    ofLayer layer' = ofLayer layer := by
  simp only [names, List.forall_mem_cons, List.not_mem_nil, false_implies, implies_true,
    and_true] at h
  obtain ⟨hseed, hperTestSeed, hcontinue, hrealtime, htimeout, hrngMin, hrngMax, hreport,
    honly⟩ := h
  simp only [ofLayer, get, hseed, hperTestSeed, hcontinue, hrealtime, htimeout, hrngMin, hrngMax,
    hreport, honly]

theorem validate_eq_ok_iff {s s' : Settings} :
    s.validate = .ok s' ↔ s = s' ∧ s.rngMin ≤ s.rngMax := by
  unfold validate
  split
  · next h => simp [UInt64.not_le.2 h]
  · next h => simp [UInt64.not_lt.1 h]

/-! ## Loading -/

/-- No name in a layer leads to a part of a setting. -/
def GivenWhole (layer : Layer) : Prop := ∀ name ∈ names, layer.GivesWhole name

instance (layer : Layer) : Decidable (GivenWhole layer) :=
  inferInstanceAs (Decidable (∀ _ ∈ _, _))

/-- An environment in which no name is torn does not break loading off. -/
theorem load?_of_intact {environment : List (String × String)} (h : Layer.Intact environment)
    (read : String → Except FileFault String) (file : Option String) (formats : List FileFormat) :
    load? read file environment formats = some (load read file environment formats) := by
  have hany : (environment.any fun v => Layer.isTorn v.1) = false := by
    rw [List.any_eq_false]
    exact fun v hv => Bool.eq_false_iff.1 (h v hv)
  rw [load?, hany, Bool.and_false, if_neg Bool.false_ne_true]

section
variable {formats : List FileFormat} {read : String → Except FileFault String}
  {file : Option String} {environment : List (String × String)} {lower : Layer}
  (hfile : fileSettings formats read file = .ok lower)
include hfile

theorem load_eq :
    load read file environment formats =
      ofLayer ((Layer.ofEnvironment environment).atop (lower.atop {})) >>= validate := by
  rw [load, hfile]
  rfl

/-- Once the file was read, loading breaks off if and only if a name is torn. -/
theorem load?_eq :
    load? read file environment formats =
      if Layer.Intact environment then some (load read file environment formats) else none := by
  by_cases h : Layer.Intact environment
  · rw [if_pos h, load?_of_intact h]
  · have hany : (environment.any fun v => Layer.isTorn v.1) = true := by
      rw [← Bool.not_eq_false, List.any_eq_false]
      exact fun hno => h fun v hv => Bool.eq_false_iff.2 (hno v hv)
    rw [if_neg h, load?, hany, hfile]
    rfl

variable (hlower : GivenWhole lower) (henvironment : GivenWhole (Layer.ofEnvironment environment))
include hlower henvironment

/-- **Settings are loaded from the layers**, each from the highest that gives it, and the bounds of
random times have to be in order. -/
theorem load_eq_ok_iff {s : Settings} :
    load read file environment formats = .ok s ↔
      s.LayeredFrom environment lower ∧ s.rngMin ≤ s.rngMax := by
  have hget {α : Type} {name : String} {read : String → Given → Except SettingsFault α}
      (hname : name ∈ names) (hread : Given.RefusesGroups (read name)) {default a : α} :
      get ((Layer.ofEnvironment environment).atop (lower.atop {})) name read default = .ok a ↔
        Wins environment lower name read default a :=
    get_eq_ok_iff (ascending_fileSettings hfile) hname (hlower name hname)
      (henvironment name hname) hread
  have hreport (name : String) :
      Given.RefusesGroups (Given.readOptional (Given.readText (.setting name))) :=
    (Given.refusesGroups_readText _).readOptional
  have hlayers : ofLayer ((Layer.ofEnvironment environment).atop (lower.atop {})) = .ok s ↔
      s.LayeredFrom environment lower := by
    rw [ofLayer_eq_ok_iff, hget (by decide) (Given.refusesGroups_readUInt64 _),
      hget (by decide) (Given.refusesGroups_readBool _),
      hget (by decide) (Given.refusesGroups_readBool _),
      hget (by decide) (Given.refusesGroups_readBool _),
      hget (by decide) Given.refusesGroups_readDuration.readOptional,
      hget (by decide) (Given.refusesGroups_readUInt64 _),
      hget (by decide) (Given.refusesGroups_readUInt64 _), hget (by decide) (hreport _),
      hget (by decide) (Given.refusesGroups_readTexts _)]
    constructor
    · rintro ⟨h1, h2, h3, h4, h5, h6, h7, h8, h9⟩
      exact ⟨h1, h2, h3, h4, h5, h6, h7, h8, h9⟩
    · rintro ⟨h1, h2, h3, h4, h5, h6, h7, h8, h9⟩
      exact ⟨h1, h2, h3, h4, h5, h6, h7, h8, h9⟩
  rw [load_eq hfile, ← hlayers]
  constructor
  · intro h
    obtain ⟨s', hs', h⟩ := ok_of_bind h
    obtain ⟨rfl, hle⟩ := validate_eq_ok_iff.1 h
    exact ⟨hs', hle⟩
  · rintro ⟨hs, hle⟩
    rw [hs]
    exact validate_eq_ok_iff.2 ⟨rfl, hle⟩

/-- What a file gives under names that the environment sets changes nothing, neither what is loaded
nor why nothing is. -/
theorem load_congr {formats' : List FileFormat} {read' : String → Except FileFault String}
    {file' : Option String} {lower' : Layer}
    (hfile' : fileSettings formats' read' file' = .ok lower') (hlower' : GivenWhole lower')
    (h : ∀ name ∈ names, Layer.environmentText? environment name = none →
      lower'.find? name = lower.find? name) :
    load? read' file' environment formats' = load? read file environment formats := by
  rw [load?_eq hfile, load?_eq hfile', load_eq hfile, load_eq hfile', ofLayer_congr]
  intro name hname
  rw [find?_layers (ascending_fileSettings hfile) hname (hlower name hname)
      (henvironment name hname),
    find?_layers (ascending_fileSettings hfile') hname (hlower' name hname)
      (henvironment name hname)]
  cases htext : Layer.environmentText? environment name with
  | some text => rfl
  | none => rw [h name hname htext]

end

/-! ## Options on top -/

/-- Settings each of which is given by an option of the command line, the environment or a settings
file or has its default. There are options for five of them, two of which only turn something on. -/
structure Layered (o : Options) (environment : List (String × String)) (file : Layer)
    (s : Settings) : Prop where
  seed : match o.seed with
    | some n => s.seed = n
    | none => Wins environment file "seed" Given.readUInt64 ({} : Settings).seed s.seed
  continueOnFailure : if o.continueOnFailure then s.continueOnFailure = true
    else Wins environment file "continue_on_failure" Given.readBool
      ({} : Settings).continueOnFailure s.continueOnFailure
  realtime : if o.realtime then s.realtime = true
    else Wins environment file "realtime" Given.readBool ({} : Settings).realtime s.realtime
  report : match o.report with
    | some path => s.report = some path
    | none => Wins environment file "report"
      (fun name => Given.readOptional (Given.readText (.setting name))) ({} : Settings).report
      s.report
  only : if o.only ≠ [] then s.only = o.only
    else Wins environment file "only" Given.readTexts ({} : Settings).only s.only
  perTestSeed : Wins environment file "per_test_seed" Given.readBool ({} : Settings).perTestSeed
    s.perTestSeed
  timeout : Wins environment file "timeout" (fun _ => Given.readOptional Given.readDuration)
    ({} : Settings).timeout s.timeout
  rngMin : Wins environment file "rng_min_ms" Given.readUInt64 ({} : Settings).rngMin s.rngMin
  rngMax : Wins environment file "rng_max_ms" Given.readUInt64 ({} : Settings).rngMax s.rngMax

theorem LayeredFrom.apply {environment : List (String × String)} {file : Layer} {s : Settings}
    (h : s.LayeredFrom environment file) (o : Options) :
    (o.apply s).Layered o environment file where
  seed := by
    cases hseed : o.seed with
    | some n => simp [Options.apply, hseed]
    | none => simpa [Options.apply, hseed] using h.seed
  continueOnFailure := by
    cases hcontinue : o.continueOnFailure with
    | true => simp [Options.apply, hcontinue]
    | false => simpa [Options.apply, hcontinue] using h.continueOnFailure
  realtime := by
    cases hrealtime : o.realtime with
    | true => simp [Options.apply, hrealtime]
    | false => simpa [Options.apply, hrealtime] using h.realtime
  report := by
    cases hreport : o.report with
    | some path => simp [Options.apply, hreport]
    | none => simpa [Options.apply, hreport] using h.report
  only := by
    by_cases honly : o.only = []
    · simpa [Options.apply, honly] using h.only
    · simp [Options.apply, honly]
  perTestSeed := h.perTestSeed
  timeout := h.timeout
  rngMin := h.rngMin
  rngMax := h.rngMax

end Settings

/-- Giving the options twice is giving them once. -/
theorem Options.apply_apply (o : Options) (s : Settings) : o.apply (o.apply s) = o.apply s := by
  obtain ⟨file, settings, logging, logFile, seed, continueOnFailure, realtime, report, only⟩ := o
  cases seed <;> cases continueOnFailure <;> cases realtime <;> cases report <;> cases only <;> rfl

namespace Settings

theorem range_of_le {s : Settings} (h : s.rngMin ≤ s.rngMax) :
    s.range.least = s.rngMin ∧ s.range.greatest = s.rngMax := by
  rw [range, TimeRange.between, dif_pos h]
  exact ⟨rfl, rfl⟩

/-- The variable of a setting in the environment. -/
def variableName (name : String) : String :=
  String.ofList ("STACKCHECK_".toList ++ name.toList.map Char.toUpper)

theorem environmentName?_variableName :
    ∀ name ∈ names, Layer.environmentName? (variableName name) = some name := by
  decide +kernel

end Settings

end StationBench
