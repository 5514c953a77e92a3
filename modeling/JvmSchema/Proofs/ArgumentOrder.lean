import JvmSchema.CommandLine
import Mathlib.Data.List.Basic

/-!
# Arguments in any order

The arguments of a run come in groups: a descriptor, an option with its value in one argument or in
two, a flag. The groups may be mixed freely, as long as the descriptors keep their order and the
table files theirs, and the configuration may also stand before the command (`Writes`). Whatever the
mixture, the run that is asked for is the same (`parse_of_writes`).

An option is settled only when the argument after its value is read, so between two groups a value
may still be pending. What counts is the state after settling: a group that is read adds itself to
that state (`exists_take_group`), and what is settled together with what is still to come always
makes up the same run (`MakesUp`).
-/

set_option autoImplicit false
set_option relaxedAutoImplicit false

namespace JvmSchema.CommandLine

/-! ### Groups of arguments -/

/-- How an option with a value is written: in one argument, or in two that stay together. -/
inductive Spelling
  | joined
  | apart
  deriving DecidableEq, Repr

/-- Arguments that belong together. -/
inductive Group
  | descriptor (text : String)
  | setting (setting : Setting) (spelling : Spelling) (value : String)
  | noJdk
  | json
  deriving DecidableEq, Repr

def Setting.name : Setting → String
  | .config => "config"
  | .types => "types"

/-- The name of an option as an argument. -/
def Setting.argument : Setting → String
  | .config => "--config"
  | .types => "--types"

def StartsWithHyphen (text : String) : Prop :=
  text.toList.head? = some '-'

instance (text : String) : Decidable (StartsWithHyphen text) :=
  inferInstanceAs (Decidable (_ = _))

namespace Group

def arguments : Group → List String
  | .descriptor text => [text]
  | .setting option .joined value => [option.argument ++ "=" ++ value]
  | .setting option .apart value => [option.argument, value]
  | .noJdk => ["--no-jdk"]
  | .json => ["--json"]

/-- A descriptor does not look like an option, values are not empty, and a value in an argument of
its own does not look like an option either. -/
def WellFormed : Group → Prop
  | .descriptor text => ¬ StartsWithHyphen text
  | .setting _ .joined value => value ≠ ""
  | .setting _ .apart value => value ≠ "" ∧ ¬ StartsWithHyphen value
  | .noJdk => True
  | .json => True

instance (group : Group) : Decidable group.WellFormed := by
  unfold WellFormed
  split <;> infer_instance

def descriptor? : Group → Option String
  | .descriptor text => some text
  | _ => none

/-- The value that a group gives an option. -/
def value? (option : Setting) : Group → Option String
  | .setting other _ value => if other = option then some value else none
  | _ => none

end Group

/-- The groups ask for this run, each of its parts once and in its order. -/
structure Interleaves (groups : List Group) (options : Options) : Prop where
  wellFormed : ∀ group ∈ groups, group.WellFormed
  descriptors : groups.filterMap Group.descriptor? = options.descriptors
  types : groups.filterMap (Group.value? .types) = options.types
  config : groups.filterMap (Group.value? .config) = options.config.toList
  noJdk : groups.count .noJdk = options.noJdk.toNat
  json : groups.count .json = (options.form == .json).toNat

/-- The arguments that ask for a run, the configuration among the other groups or before the
command. -/
inductive Writes (options : Options) : List String → Prop
  | within {groups : List Group} (h : Interleaves groups options) :
      Writes options ("classify" :: groups.flatMap Group.arguments)
  | before {groups : List Group} {spelling : Spelling} {path : String}
      (hconfig : options.config = some path)
      (hgroup : (Group.setting .config spelling path).WellFormed)
      (h : Interleaves groups { options with config := none }) :
      Writes options ((Group.setting .config spelling path).arguments ++
        "classify" :: groups.flatMap Group.arguments)

/-! ### Single arguments -/

theorem ofString_of_not_startsWithHyphen {text : String} (h : ¬ StartsWithHyphen text) :
    Argument.ofString text = .plain := by
  rw [StartsWithHyphen] at h
  unfold Argument.ofString
  split <;> simp_all

theorem ofString_argument (option : Setting) :
    Argument.ofString option.argument = .long option.name none := by
  cases option <;> rfl

theorem ofString_joined (option : Setting) (value : String) :
    Argument.ofString (option.argument ++ "=" ++ value) = .long option.name (some value) := by
  have hlist : (option.argument ++ "=" ++ value).toList =
      option.argument.toList ++ '=' :: value.toList := by
    simp [String.toList_append]
  unfold Argument.ofString
  rw [hlist]
  cases option <;> simp [Setting.argument, Setting.name]

/-! ### One group -/

namespace Gathered

/-- Between two groups: the next argument starts a group, and this is the state once the pending
option is settled. -/
structure Reaches (gathered settled : Gathered) : Prop where
  options : gathered.literal = false
  ready : gathered.wantsValue = none
  settles : gathered.settle = .ok settled

theorem set_eq_ok {settled next : Gathered} {option : Setting} {value : String}
    (h : settled.set option value = .ok next) :
    next.pending = settled.pending ∧ next.literal = settled.literal := by
  unfold set at h
  cases option <;> simp only [fault] at h <;> split_ifs at h <;> cases h <;> exact ⟨rfl, rfl⟩

theorem settle_of_pending_eq_none {gathered : Gathered} (h : gathered.pending = none) :
    gathered.settle = .ok gathered := by
  simp [settle, h]

theorem settle_eq_ok {gathered settled : Gathered} (h : gathered.settle = .ok settled) :
    settled.pending = none ∧ settled.literal = gathered.literal := by
  unfold settle at h
  split at h
  · cases h
    exact ⟨‹_›, rfl⟩
  · cases h
  · exact set_eq_ok h

/-- A state with nothing pending is settled. -/
theorem reaches_self {gathered : Gathered} (hpending : gathered.pending = none)
    (hliteral : gathered.literal = false) : Reaches gathered gathered where
  options := hliteral
  ready := by simp [wantsValue, hpending]
  settles := settle_of_pending_eq_none hpending

theorem Reaches.pending {gathered settled : Gathered} (h : Reaches gathered settled) :
    settled.pending = none :=
  (settle_eq_ok h.settles).1

theorem Reaches.literal {gathered settled : Gathered} (h : Reaches gathered settled) :
    settled.literal = false :=
  (settle_eq_ok h.settles).2.trans h.options

end Gathered

namespace Group

open Gathered

/-- The settled state with a group more. -/
def add (settled : Gathered) : Group → Gathered
  | .descriptor text => { settled with descriptors := settled.descriptors ++ [text] }
  | .setting .config _ value => { settled with config := some value }
  | .setting .types _ value => { settled with types := settled.types ++ [value] }
  | .noJdk => { settled with noJdk := true }
  | .json => { settled with json := true }

/-- What the group gives may be given: it may be repeated or has not been given. -/
def Free (settled : Gathered) : Group → Prop
  | .setting .config _ _ => settled.config = none
  | .noJdk => settled.noJdk = false
  | .json => settled.json = false
  | _ => True

@[simp] theorem add_pending (settled : Gathered) (group : Group) :
    (group.add settled).pending = settled.pending := by
  unfold add
  split <;> rfl

@[simp] theorem add_literal (settled : Gathered) (group : Group) :
    (group.add settled).literal = settled.literal := by
  unfold add
  split <;> rfl

theorem add_descriptors (settled : Gathered) (group : Group) :
    (group.add settled).descriptors = settled.descriptors ++ group.descriptor?.toList := by
  unfold add
  split <;> simp [descriptor?]

theorem add_types (settled : Gathered) (group : Group) :
    (group.add settled).types = settled.types ++ (group.value? .types).toList := by
  unfold add
  split <;> simp [value?]

theorem add_config {settled : Gathered} {group : Group} (h : group.Free settled) :
    (group.add settled).config.toList =
      settled.config.toList ++ (group.value? .config).toList := by
  unfold add
  split <;> simp_all [value?, Free]

theorem add_noJdk {settled : Gathered} {group : Group} (h : group.Free settled) :
    (group.add settled).noJdk.toNat = settled.noJdk.toNat + (group == .noJdk).toNat := by
  unfold add
  split <;> simp_all [Free]

theorem add_json {settled : Gathered} {group : Group} (h : group.Free settled) :
    (group.add settled).json.toNat = settled.json.toNat + (group == .json).toNat := by
  unfold add
  split <;> simp_all [Free]

theorem set_of_free {settled : Gathered} {option : Setting} {spelling : Spelling} {value : String}
    (hvalue : value ≠ "") (hfree : (Group.setting option spelling value).Free settled) :
    settled.set option value = .ok ((Group.setting option spelling value).add settled) := by
  cases option with
  | config =>
    have hconfig : settled.config = none := hfree
    simp [Gathered.set, hconfig, hvalue, add]
  | types => simp [Gathered.set, hvalue, add]

end Group

open Gathered

variable {gathered settled : Gathered}

/-- An option in an argument of its own, at a level that knows it, waits for its value. -/
theorem long_argument {level : Level} {option : Setting}
    (hknown : level.settings.lookup option.name = some option) (h : Reaches gathered settled) :
    gathered.long level option.name none =
      .ok { settled with pending := some (option, none) } := by
  simp [Gathered.long, hknown, h.settles, bind, Except.bind, pure, Except.pure]

theorem long_joined {level : Level} {option : Setting} {value : String}
    (hknown : level.settings.lookup option.name = some option) (h : Reaches gathered settled) :
    gathered.long level option.name (some value) = settled.set option value := by
  simp [Gathered.long, hknown, h.settles, bind, Except.bind]

theorem lookup_name_classify (option : Setting) :
    Level.classify.settings.lookup option.name = some option := by
  cases option <;> rfl

theorem take_of_ofString_eq_long {argument name : String} {value? : Option String}
    (hargument : Argument.ofString argument = .long name value?) (h : gathered.literal = false) :
    gathered.take argument = gathered.long .classify name value? := by
  simp [Gathered.take, h, hargument]

theorem take_flag {argument name : String} {flag : Flag}
    (hargument : Argument.ofString argument = .long name none)
    (hsetting : Level.classify.settings.lookup name = none)
    (hflag : Level.classify.flags.lookup name = some flag) (h : gathered.literal = false) :
    gathered.take argument = gathered.raise .classify flag := by
  rw [take_of_ofString_eq_long hargument h]
  simp [Gathered.long, hsetting, hflag]

/-- The state after an option with its value in the next argument, while nothing has come after. -/
theorem reaches_pending {option : Setting} {value : String} {next : Gathered}
    (hpending : settled.pending = none) (hliteral : settled.literal = false)
    (hset : settled.set option value = .ok next) :
    Reaches { settled with pending := some (option, some value) } next where
  options := hliteral
  ready := rfl
  settles := by
    have hsettled : { settled with pending := none } = settled := by
      rw [← hpending]
    simp only [Gathered.settle]
    rw [hsettled, hset]

/-- The step: a group that is free adds itself to what is settled. -/
theorem exists_take_group {group : Group} (h : Reaches gathered settled)
    (hwell : group.WellFormed) (hfree : group.Free settled) :
    ∃ next, group.arguments.foldlM Gathered.take gathered = .ok next ∧
      Reaches next (group.add settled) := by
  have hself : Reaches (group.add settled) (group.add settled) :=
    reaches_self (by simp [h.pending]) (by simp [h.literal])
  cases group with
  | descriptor text =>
    refine ⟨_, ?_, hself⟩
    simp [Group.arguments, Gathered.take, h.options, ofString_of_not_startsWithHyphen hwell,
      h.ready, Gathered.addDescriptor, h.settles, Group.add, bind, Except.bind, pure, Except.pure]
  | setting option spelling value =>
    have hknown := lookup_name_classify option
    cases spelling with
    | joined =>
      refine ⟨_, ?_, hself⟩
      have htake : gathered.take (option.argument ++ "=" ++ value) =
          .ok ((Group.setting option .joined value).add settled) := by
        rw [take_of_ofString_eq_long (ofString_joined option value) h.options,
          long_joined hknown h, Group.set_of_free hwell hfree]
      simp [Group.arguments, htake]
    | apart =>
      have hset := Group.set_of_free hwell.1 hfree
      refine ⟨_, ?_, reaches_pending h.pending h.literal hset⟩
      have hfirst : gathered.take option.argument =
          .ok { settled with pending := some (option, none) } := by
        rw [take_of_ofString_eq_long (ofString_argument option) h.options,
          long_argument hknown h]
      have hsecond : { settled with pending := some (option, none) }.take value =
          .ok { settled with pending := some (option, some value) } := by
        simp [Gathered.take, h.literal, ofString_of_not_startsWithHyphen hwell.2,
          Gathered.wantsValue]
      simp [Group.arguments, hfirst, hsecond, bind, Except.bind, pure, Except.pure]
  | noJdk =>
    refine ⟨_, ?_, hself⟩
    have hraised : settled.noJdk = false := hfree
    have htake : gathered.take "--no-jdk" = gathered.raise .classify .noJdk :=
      take_flag rfl rfl rfl h.options
    simp [Group.arguments, htake, Gathered.raise, h.settles, hraised, Group.add, bind,
      Except.bind, pure, Except.pure]
  | json =>
    refine ⟨_, ?_, hself⟩
    have hraised : settled.json = false := hfree
    have htake : gathered.take "--json" = gathered.raise .classify .json :=
      take_flag rfl rfl rfl h.options
    simp [Group.arguments, htake, Gathered.raise, h.settles, hraised, Group.add, bind,
      Except.bind, pure, Except.pure]

/-! ### All groups -/

/-- What is settled and the groups still to come make up a run together. -/
structure MakesUp (settled : Gathered) (groups : List Group) (options : Options) : Prop where
  wellFormed : ∀ group ∈ groups, group.WellFormed
  descriptors : settled.descriptors ++ groups.filterMap Group.descriptor? = options.descriptors
  types : settled.types ++ groups.filterMap (Group.value? .types) = options.types
  config : settled.config.toList ++ groups.filterMap (Group.value? .config) = options.config.toList
  noJdk : settled.noJdk.toNat + groups.count .noJdk = options.noJdk.toNat
  json : settled.json.toNat + groups.count .json = (options.form == .json).toNat

variable {options : Options} {group : Group} {groups : List Group}

theorem Interleaves.makesUp (h : Interleaves groups options) : MakesUp {} groups options where
  wellFormed := h.wellFormed
  descriptors := h.descriptors
  types := h.types
  config := h.config
  noJdk := by simpa using h.noJdk
  json := by simpa using h.json

theorem filterMap_cons_eq {α : Type} (project : Group → Option α) (group : Group)
    (groups : List Group) : (group :: groups).filterMap project =
      (project group).toList ++ groups.filterMap project := by
  simp [List.filterMap_eq_flatMap_toList]

theorem count_cons_eq (flag group : Group) (groups : List Group) :
    (group :: groups).count flag = (group == flag).toNat + groups.count flag := by
  rw [List.count_cons, Nat.add_comm]
  cases group == flag <;> rfl

namespace MakesUp

/-- A run has at most one configuration and each flag at most once. -/
theorem free (h : MakesUp settled (group :: groups) options) : group.Free settled := by
  cases group with
  | descriptor text => trivial
  | setting option spelling value =>
    cases option with
    | config =>
      have hlength := congrArg List.length h.config
      have hrun : options.config.toList.length ≤ 1 := by cases options.config <;> simp
      cases hconfig : settled.config with
      | none => exact hconfig
      | some path => simp [hconfig, Group.value?] at hlength; omega
    | types => trivial
  | noJdk =>
    have hcount := h.noJdk
    have hrun := options.noJdk.toNat_le
    cases hraised : settled.noJdk with
    | false => exact hraised
    | true => simp [hraised] at hcount; omega
  | json =>
    have hcount := h.json
    have hrun := (options.form == .json).toNat_le
    cases hraised : settled.json with
    | false => exact hraised
    | true => simp [hraised] at hcount; omega

/-- A group moves from what is to come to what is settled. -/
theorem add (h : MakesUp settled (group :: groups) options) :
    MakesUp (group.add settled) groups options where
  wellFormed other hother := h.wellFormed other (List.mem_cons_of_mem group hother)
  descriptors := by
    rw [Group.add_descriptors, List.append_assoc, ← filterMap_cons_eq, h.descriptors]
  types := by
    rw [Group.add_types, List.append_assoc, ← filterMap_cons_eq, h.types]
  config := by
    rw [Group.add_config h.free, List.append_assoc, ← filterMap_cons_eq, h.config]
  noJdk := by
    rw [Group.add_noJdk h.free, Nat.add_assoc, ← count_cons_eq, h.noJdk]
  json := by
    rw [Group.add_json h.free, Nat.add_assoc, ← count_cons_eq, h.json]

end MakesUp

/-- The run: groups that make up a run with what is settled are all taken, one after the other. -/
theorem exists_take_groups (groups : List Group) {gathered settled : Gathered}
    (h : Reaches gathered settled) (hrun : MakesUp settled groups options) :
    ∃ last final, (groups.flatMap Group.arguments).foldlM Gathered.take gathered = .ok last ∧
      Reaches last final ∧ MakesUp final [] options := by
  induction groups generalizing gathered settled with
  | nil => exact ⟨gathered, settled, rfl, h, hrun⟩
  | cons group groups ih =>
    obtain ⟨next, htake, hnext⟩ :=
      exists_take_group h (hrun.wellFormed group List.mem_cons_self) hrun.free
    obtain ⟨last, final, hrest, hlast, hfinal⟩ := ih hnext hrun.add
    refine ⟨last, final, ?_, hlast, hfinal⟩
    rw [List.flatMap_cons, List.foldlM_append, htake]
    exact hrest

theorem toNat_injective {first second : Bool} (h : first.toNat = second.toNat) :
    first = second := by
  cases first <;> cases second <;> simp_all

/-- With nothing to come, the settled state is the run. -/
theorem MakesUp.options_eq {outer : Gathered} {path? : Option String}
    (h : MakesUp settled [] { options with config := path? })
    (hconfig : path?.or outer.config = options.config) : outer.options settled = options := by
  obtain ⟨-, hdescriptors, htypes, hpath, hnoJdk, hjson⟩ := h
  have hinner : settled.config = path? := by
    have hlist : settled.config.toList = path?.toList := by simpa using hpath
    revert hlist
    cases settled.config <;> cases path? <;> simp
  have hform : settled.json = (options.form == .json) := toNat_injective (by simpa using hjson)
  have hflag : settled.noJdk = options.noJdk := toNat_injective (by simpa using hnoJdk)
  simp only [Group.descriptor?, List.filterMap_nil, List.append_nil] at hdescriptors htypes
  cases hoptions : options with
  | mk descriptors types noJdk config form =>
    subst hoptions
    cases form <;> simp_all [Gathered.options]

/-- The arguments after the command ask for the run, except for a configuration given before. -/
theorem exists_ofArguments {path? : Option String} (hdescriptors : options.descriptors ≠ [])
    (h : Interleaves groups { options with config := path? }) :
    ∃ final, Gathered.ofArguments (groups.flatMap Group.arguments) = .ok final ∧
      MakesUp final [] { options with config := path? } := by
  obtain ⟨last, final, htake, hlast, hfinal⟩ :=
    exists_take_groups groups (reaches_self rfl rfl) h.makesUp
  have hsome : final.descriptors.isEmpty = false := by
    have hfinal := hfinal.descriptors
    simp_all
  refine ⟨final, ?_, hfinal⟩
  simp [Gathered.ofArguments, htake, hlast.settles, hsome, bind, Except.bind, pure, Except.pure]

/-- The command and what follows it, when what was before can be settled. -/
theorem read_classify {outer before : Gathered} {path? : Option String}
    (hbefore : Reaches outer before) (hdescriptors : options.descriptors ≠ [])
    (hconfig : path?.or before.config = options.config)
    (h : Interleaves groups { options with config := path? }) :
    read outer ("classify" :: groups.flatMap Group.arguments) = .ok options := by
  obtain ⟨final, harguments, hfinal⟩ := exists_ofArguments hdescriptors h
  have hplain : Argument.ofString "classify" = .plain := rfl
  have hrun : before.options final = options := hfinal.options_eq hconfig
  rw [read.eq_def]
  simp [hbefore.options, hbefore.ready, hplain, harguments, hbefore.settles, hrun, bind,
    Except.bind, pure, Except.pure]

/-- A configuration before the command is settled when the command has been read. -/
theorem read_config {spelling : Spelling} {path : String} (rest : List String)
    (h : (Group.setting .config spelling path).WellFormed) :
    ∃ outer, read {} ((Group.setting .config spelling path).arguments ++ rest) = read outer rest ∧
      Reaches outer { config := some path } := by
  have hself : Reaches {} {} := reaches_self rfl rfl
  have hknown : Level.program.settings.lookup Setting.config.name = some .config := rfl
  cases spelling with
  | joined =>
    have hvalue : path ≠ "" := h
    refine ⟨{ config := some path }, ?_, reaches_self rfl rfl⟩
    rw [Group.arguments, List.singleton_append, read, if_neg (by simp), ofString_joined]
    simp [long_joined hknown hself, Gathered.set, hvalue, bind, Except.bind]
  | apart =>
    obtain ⟨hvalue, hhyphen⟩ := h
    have hset : Gathered.set {} .config path = .ok { config := some path } := by
      simp [Gathered.set, hvalue]
    refine ⟨{ pending := some (.config, some path) }, ?_, reaches_pending rfl rfl hset⟩
    rw [Group.arguments, List.cons_append, List.singleton_append, read, if_neg (by simp),
      ofString_argument]
    simp only [long_argument hknown hself, bind, Except.bind]
    rw [read, if_neg (by simp), ofString_of_not_startsWithHyphen hhyphen]
    simp [Gathered.wantsValue]

/-- However the groups of arguments are mixed, the run they make up is read, and what the program
does is what this run does. -/
theorem parse_of_writes {options : Options} (hdescriptors : options.descriptors ≠ [])
    {arguments : List String} (h : Writes options arguments) :
    parse arguments = .ok options ∧
      ∀ files directory, execute files directory arguments =
        .ofRun (options.run files directory).result := by
  have hparse : parse arguments = .ok options := by
    cases h with
    | within h => exact read_classify (reaches_self rfl rfl) hdescriptors (Option.or_none) h
    | before hconfig hgroup h =>
      obtain ⟨outer, hread, hreaches⟩ := read_config _ hgroup
      rw [parse, hread]
      refine read_classify hreaches hdescriptors ?_ h
      exact hconfig.symm
  refine ⟨hparse, fun files directory ↦ ?_⟩
  rw [execute, hparse]

/-- A configuration before the command, a table file right before a descriptor, and another one
between two descriptors. -/
theorem parse_of_writes_mixed :
    let options : Options :=
      { descriptors := ["I", "Ljava/util/UUID;"], types := ["a.toml", "-b.toml"], noJdk := true,
        config := some "c.toml", form := .json }
    let arguments := ["--config", "c.toml", "classify", "--types", "a.toml", "I", "--json",
      "--types=-b.toml", "Ljava/util/UUID;", "--no-jdk"]
    options.descriptors ≠ [] ∧ Writes options arguments ∧ parse arguments = .ok options := by
  intro options arguments
  have hinterleaves : Interleaves
      [.setting .types .apart "a.toml", .descriptor "I", .json, .setting .types .joined "-b.toml",
        .descriptor "Ljava/util/UUID;", .noJdk] { options with config := none } :=
    ⟨by decide, rfl, rfl, rfl, rfl, rfl⟩
  have hconfig : (Group.setting .config .apart "c.toml").WellFormed := by decide
  have hwrites : Writes options arguments := .before rfl hconfig hinterleaves
  exact ⟨by decide, hwrites, (parse_of_writes (by decide) hwrites).1⟩

end JvmSchema.CommandLine
