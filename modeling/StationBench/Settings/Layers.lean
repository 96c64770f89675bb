import StationBench.Settings.Reference
/-!
# Layers of settings

Settings come in layers, each of which gives some of them. Of two layers that give a setting the
later one wins, whatever the earlier one says (`Layer.find?_atop_of_givesWhole`), unless it gives a
part of the setting only. The environment is a layer: the variables that begin with `STACKCHECK_`.
-/
namespace StationBench

/-- Settings, or parts of them, under their names. -/
abbrev Layer := Table String Given

namespace Layer

/-- Puts a value where a reference leads. -/
def set (layer : Layer) (r : Reference) (v : Given) : Layer :=
  layer.insert r.setting (v.put r.way (layer.find? r.setting))

theorem find?_set (layer : Layer) (r : Reference) (v : Given) (name : String) :
    (layer.set r v).find? name =
      if name = r.setting then some (v.put r.way (layer.find? r.setting)) else layer.find? name :=
  Table.find?_insert layer r.setting name _

/-- The settings of two layers, what `upper` gives after what `lower` gives. -/
def atop (upper lower : Layer) : Layer :=
  upper.entries.foldr (fun e layer => layer.set (.ofName e.1) e.2) lower

/-- A setting that no name of a layer refers to stays as it was. -/
theorem find?_atop_of_forall_ne {upper : Layer} (lower : Layer) {name : String}
    (h : ∀ e ∈ upper.entries, name ≠ (Reference.ofName e.1).setting) :
    (upper.atop lower).find? name = lower.find? name := by
  obtain ⟨entries⟩ := upper
  induction entries with
  | nil => rfl
  | cons e rest ih =>
    have ih := ih fun e he => h e (List.mem_cons_of_mem _ he)
    simp only [atop, List.foldr_cons] at ih ⊢
    rw [find?_set, if_neg (h e (by simp)), ih]

/-! ## The environment -/

/-- What the names of settings in the environment begin with. -/
def environmentStart : List Char := "stackcheck_".toList

/-- The characters after as many bytes, unless a character goes over their end. -/
def afterBytes? : (count : Nat) → List Char → Option (List Char)
  | 0, cs => some cs
  | _, [] => none
  | count + 1, c :: rest =>
    if c.utf8Size ≤ count + 1 then afterBytes? (count + 1 - c.utf8Size) rest else none

/-- Whether a variable is one for settings, whatever the case of its letters. -/
def isEnvironmentName (name : String) : Bool :=
  environmentStart.isPrefixOf (Text.lower name).toList

/-- What follows the start of the name of a variable for settings. The start takes up as many bytes
as it has in lower case. -/
def afterStart? (name : String) : Option (List Char) :=
  afterBytes? environmentStart.length name.toList

/-- The setting of a variable. -/
def environmentName? (name : String) : Option String :=
  if isEnvironmentName name then
    (afterStart? name).map fun rest => Text.lower (String.ofList rest)
  else none

/-- Whether the start of the name of a variable for settings ends within a character. -/
def isTorn (name : String) : Bool := isEnvironmentName name && (afterStart? name).isNone

/-- No name in an environment is torn. -/
def Intact (environment : List (String × String)) : Prop :=
  ∀ v ∈ environment, isTorn v.1 = false

instance (environment : List (String × String)) : Decidable (Intact environment) :=
  inferInstanceAs (Decidable (∀ _ ∈ _, _))

/-- The settings in the environment. -/
def ofEnvironment (environment : List (String × String)) : Layer :=
  .ofList <| environment.filterMap fun (name, text) =>
    (environmentName? name).map fun key => (key, .scalar (.string text) (some .environment))

end Layer

end StationBench
