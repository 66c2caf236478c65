import CertRenewal.Logging.Output
import Mathlib.Data.List.Basic

/-
  The handlers of the log. A set-up walks along the list of handlers as it was and takes those of
  an earlier set-up out of the list as it is; what is left are the handlers of others, in their
  order (`clear_eq`). Main statements: `setups_never_stack`, at every point there are at most two
  handlers of set-ups, and after a set-up that came through exactly the two that it made, behind
  all others; `failed_setup`, a set-up that fails takes the handlers of an earlier one away and
  installs none, so that nothing is printed or exported from then on. It leaves the handlers as
  they were exactly where there was nothing to take away (`isAtomic_iff`).
-/

namespace CertRenewal.Logging

/-! ## Levels by name -/

/-- In a list whose keys are all different, a key is looked up to the value beside it. -/
theorem lookup_eq_some_iff_mem {α β : Type} [DecidableEq α] {k : α} {v : β} {l : List (α × β)}
    (distinct : (l.map (·.1)).Nodup) : l.lookup k = some v ↔ (k, v) ∈ l := by
  rw [List.lookup_eq_some_iff]
  constructor
  · rintro ⟨before, behind, rfl, -⟩
    exact List.mem_append_right _ List.mem_cons_self
  · intro h
    obtain ⟨before, behind, rfl⟩ := List.append_of_mem h
    refine ⟨before, behind, rfl, ?_⟩
    intro p hp
    rw [List.map_append, List.map_cons, List.nodup_append] at distinct
    rw [bne_iff_ne]
    exact (distinct.2.2 _ (List.mem_map_of_mem hp) _ List.mem_cons_self).symm

namespace Level

/-- The level has this name. -/
def IsNamed (name : String) (l : Level) : Prop :=
  (name, l.value) ∈ [("CRITICAL", 50), ("FATAL", 50), ("ERROR", 40), ("WARNING", 30), ("WARN", 30),
    ("INFO", 20), ("DEBUG", 10), ("NOTSET", 0)]

/-- No level has this name, and this is what asking for it ends with: the name is unknown, or it
is one of the two that something else goes by. -/
inductive NamesNone (name : String) : LevelError → Prop where
  | unknown (h : ∀ l, ¬ IsNamed name l) (format : name ≠ "BASIC_FORMAT")
      (styles : name ≠ "_STYLES") : NamesNone name (.unknown name)
  | format (h : name = "BASIC_FORMAT") : NamesNone name .formatText
  | styles (h : name = "_STYLES") : NamesNone name .styleTable

variable {name : String}

theorem lookup_names_eq_some_iff {l : Level} : names.lookup name = some l ↔ IsNamed name l := by
  have values : [("CRITICAL", (50 : Int)), ("FATAL", 50), ("ERROR", 40), ("WARNING", 30),
      ("WARN", 30), ("INFO", 20), ("DEBUG", 10), ("NOTSET", 0)] =
        names.map fun x => (x.1, x.2.value) := rfl
  have injective : Function.Injective fun (x : String × Level) => (x.1, x.2.value) := by
    rintro ⟨n, ⟨v⟩⟩ ⟨n', ⟨v'⟩⟩ same
    cases same
    rfl
  rw [lookup_eq_some_iff_mem (by decide), IsNamed, values]
  exact (List.mem_map_of_injective injective (a := (name, l))).symm

theorem lookup_names_eq_none_iff : names.lookup name = none ↔ ∀ l, ¬ IsNamed name l := by
  simp only [← lookup_names_eq_some_iff]
  exact Option.eq_none_iff_forall_ne_some

theorem ofName_eq_ok_iff_isNamed {l : Level} : ofName name = .ok l ↔ IsNamed name l := by
  rw [← lookup_names_eq_some_iff]
  unfold ofName
  cases names.lookup name with
  | some m => rw [Except.ok.injEq, Option.some.injEq]
  | none =>
    refine iff_of_false ?_ nofun
    intro h
    dsimp only at h
    split at h
    · cases h
    · cases h

theorem ofName_eq_error_iff {e : LevelError} : ofName name = .error e ↔ NamesNone name e := by
  constructor
  · intro h
    unfold ofName at h
    split at h
    · cases h
    · rename_i nameless
      split at h
      · rename_i other found
        cases h
        rw [lookup_eq_some_iff_mem (by decide)] at found
        rcases List.mem_cons.1 found with same | found
        · cases same
          exact .format rfl
        · cases List.mem_singleton.1 found
          exact .styles rfl
      · rename_i unknown
        cases h
        rw [List.lookup_eq_none_iff] at unknown
        refine .unknown (lookup_names_eq_none_iff.1 nameless) ?_ ?_
        · exact bne_iff_ne.1 (unknown _ List.mem_cons_self)
        · exact bne_iff_ne.1 (unknown _ (List.mem_cons_of_mem _ List.mem_cons_self))
  · intro h
    cases h with
    | unknown h format styles =>
      have others : LevelError.others.lookup name = none := by
        rw [List.lookup_eq_none_iff]
        simp only [LevelError.others, List.forall_mem_cons, bne_iff_ne]
        exact ⟨format, styles, nofun⟩
      unfold ofName
      rw [lookup_names_eq_none_iff.2 h, others]
    | format h => rw [h]; rfl
    | styles h => rw [h]; rfl

theorem NamesNone.not_isNamed {e : LevelError} (h : NamesNone name e) : ¬ ∃ l, IsNamed name l := by
  rintro ⟨l, named⟩
  have unknown := ofName_eq_error_iff.2 h
  rw [ofName_eq_ok_iff_isNamed.2 named] at unknown
  cases unknown

end Level

/-! ## One set-up -/

/-- The provider that the handler of a set-up came with, by its number. -/
def Handler.provider? : Handler → Option Nat
  | exporter _ p => some p
  | printer p => some p
  | foreign _ => none

theorem Handler.provider?_of_not_isOwn {h : Handler} (other : h.isOwn = false) :
    h.provider? = none := by
  cases h with
  | exporter => cases other
  | printer => cases other
  | foreign => rfl

namespace State

/-- Walking along the rest of a list, from which nothing of others has to go, leaves what was
walked past and those of the rest that others have put there. -/
theorem foldl_detach {s : State} {past rest : List Handler} (kept : ∀ h ∈ past, h.isOwn = false)
    (split : s.handlers = past ++ rest) :
    rest.foldl (fun s h => if h.isOwn then s.detach h else s) s =
      { s with handlers := past ++ rest.filter (!·.isOwn) } := by
  induction rest generalizing s past with
  | nil => rw [List.foldl_nil, List.filter_nil, ← split]
  | cons h rest ih =>
    rw [List.foldl_cons]
    cases own : h.isOwn with
    | true =>
      -- It does not stand among those walked past, so it is taken away just here.
      have absent : h ∉ past := by
        intro mem
        rw [kept h mem] at own
        cases own
      have detached : (s.detach h).handlers = past ++ rest := by
        unfold detach
        rw [split, List.erase_append_right _ absent, List.erase_cons_head]
      rw [if_pos rfl, ih kept detached, List.filter_cons_of_neg (by rw [own]; decide)]
      rfl
    | false =>
      have kept' : ∀ x ∈ past ++ [h], x.isOwn = false := by
        rw [List.forall_mem_append, List.forall_mem_singleton]
        exact ⟨kept, own⟩
      rw [if_neg (by decide), ih kept' (by rw [split, List.append_assoc]; rfl),
        List.filter_cons_of_pos (by rw [own]; decide), List.append_assoc]
      rfl

/-- Clearing leaves the handlers of others as they were. -/
theorem clear_eq (s : State) : s.clear = { s with handlers := s.foreign } :=
  @foldl_detach s [] s.handlers nofun rfl

theorem isOwn_of_mem_foreign {s : State} {h : Handler} (mem : h ∈ s.foreign) :
    h.isOwn = false := by
  have kept := (List.mem_filter.1 mem).2
  rwa [Bool.not_eq_true'] at kept

theorem attach_attach {s : State} {h g : Handler} (absent_h : h ∉ s.handlers)
    (absent_g : g ∉ s.handlers) (ne : g ≠ h) :
    (s.attach h).attach g = { s with handlers := s.handlers ++ [h, g] } := by
  have absent : g ∉ s.handlers ++ [h] := by
    rw [List.mem_append, List.mem_singleton]
    exact not_or_intro absent_g ne
  unfold attach
  rw [if_neg absent_h, if_neg absent, List.append_assoc]
  rfl

/-- The state after a set-up that came through: its two handlers stand behind those of others. -/
def installed (s : State) (l : Level) : State where
  handlers := s.foreign ++ [.exporter l s.providers, .printer s.providers]
  level := l
  accessLevel := .warning
  providers := s.providers + 1

/-- The state after a set-up that failed: there are the handlers of others. -/
def stripped (s : State) : State := { s with handlers := s.foreign, providers := s.providers + 1 }

/-- Clearing comes after the provider of the set-up is made. -/
theorem clear_counted (s : State) : { s with providers := s.providers + 1 }.clear = s.stripped :=
  clear_eq _

variable {s : State} {d : Demand}

theorem setup_of_named {l : Level} (h : Level.IsNamed d.levelName l) :
    s.setup d = (s.installed l, .ok (resourceName d.serviceName)) := by
  have exporter : Handler.exporter l s.providers ∉ s.stripped.handlers := by
    intro mem
    cases isOwn_of_mem_foreign mem
  have printer : Handler.printer s.providers ∉ s.stripped.handlers := by
    intro mem
    cases isOwn_of_mem_foreign mem
  unfold setup
  rw [clear_counted, Level.ofName_eq_ok_iff_isNamed.2 h]
  dsimp only
  rw [attach_attach exporter printer nofun]
  rfl

theorem setup_of_nameless {e : LevelError} (h : Level.NamesNone d.levelName e) :
    s.setup d = (s.stripped, .error e) := by
  unfold setup
  rw [clear_counted, Level.ofName_eq_error_iff.2 h]

/-- A set-up comes through with a level of the name that is asked for, or fails for want of one. -/
theorem setups (s : State) (d : Demand) :
    (∃ l, Level.IsNamed d.levelName l ∧
      s.setup d = (s.installed l, .ok (resourceName d.serviceName))) ∨
    ∃ e, Level.NamesNone d.levelName e ∧ s.setup d = (s.stripped, .error e) := by
  cases h : Level.ofName d.levelName with
  | ok l =>
    have named := Level.ofName_eq_ok_iff_isNamed.1 h
    exact .inl ⟨l, named, setup_of_named named⟩
  | error e =>
    have nameless := Level.ofName_eq_error_iff.1 h
    exact .inr ⟨e, nameless, setup_of_nameless nameless⟩

/-! ## Many set-ups -/

/-- What others do with handlers of theirs: one is put in, wherever it may be, or one is taken
out. -/
inductive Meddles (s : State) : State → Prop where
  | put {before behind : List Handler} (tag : Nat) (h : s.handlers = before ++ behind) :
      Meddles s { s with handlers := before ++ .foreign tag :: behind }
  | take {before behind : List Handler} {tag : Nat}
      (h : s.handlers = before ++ .foreign tag :: behind) :
      Meddles s { s with handlers := before ++ behind }

/-- Adding a handler of somebody else's changes nothing, or puts it in. -/
theorem meddles_add (s : State) (tag : Nat) : s.add tag = s ∨ s.Meddles (s.add tag) := by
  unfold add attach
  by_cases h : .foreign tag ∈ s.handlers
  · exact .inl (if_pos h)
  · rw [if_neg h]
    exact .inr (.put tag (List.append_nil _).symm)

/-- Removing a handler of somebody else's changes nothing, or takes it out. -/
theorem meddles_remove (s : State) (tag : Nat) :
    s.remove tag = s ∨ s.Meddles (s.remove tag) := by
  unfold remove detach
  by_cases h : .foreign tag ∈ s.handlers
  · obtain ⟨before, behind, -, split, erased⟩ := List.exists_erase_eq h
    rw [erased]
    exact .inr (.take split)
  · rw [List.erase_of_not_mem h]
    exact .inl rfl

/-- The states that come about: at first there is no handler of a set-up, and then set-ups, good
ones and bad ones, and others take turns. -/
inductive Arises : State → Prop where
  | first {s : State} (h : ∀ x ∈ s.handlers, x.isOwn = false) : Arises s
  | setup {s : State} (h : Arises s) (settings : Settings) (name level : Option String) :
      Arises (s.setup (.of settings name level)).1
  | others {s t : State} (h : Arises s) (m : s.Meddles t) : Arises t

theorem Arises.add (h : s.Arises) (tag : Nat) : (s.add tag).Arises := by
  rcases s.meddles_add tag with same | m
  · rwa [same]
  · exact h.others m

theorem Arises.remove (h : s.Arises) (tag : Nat) : (s.remove tag).Arises := by
  rcases s.meddles_remove tag with same | m
  · rwa [same]
  · exact h.others m

/-- The handlers of set-ups are at most two, and their providers are among those made so far. -/
structure IsTidy (s : State) : Prop where
  few : s.own.length ≤ 2
  made : ∀ h ∈ s.own, ∀ p, h.provider? = some p → p < s.providers

theorem own_eq_nil (h : ∀ x ∈ s.handlers, x.isOwn = false) : s.own = [] := by
  unfold own
  rw [List.filter_eq_nil_iff]
  intro x mem
  rw [h x mem]
  decide

theorem foreign_eq_handlers (h : ∀ x ∈ s.handlers, x.isOwn = false) : s.foreign = s.handlers := by
  unfold foreign
  rw [List.filter_eq_self]
  intro x mem
  rw [h x mem]
  rfl

theorem own_stripped (s : State) : s.stripped.own = [] :=
  own_eq_nil fun _ mem => isOwn_of_mem_foreign mem

theorem foreign_stripped (s : State) : s.stripped.foreign = s.foreign :=
  foreign_eq_handlers fun _ mem => isOwn_of_mem_foreign mem

theorem own_installed (s : State) (l : Level) :
    (s.installed l).own = [.exporter l s.providers, .printer s.providers] := by
  have none := own_stripped s
  unfold own stripped at none
  unfold own installed
  rw [List.filter_append, none]
  rfl

theorem foreign_installed (s : State) (l : Level) : (s.installed l).foreign = s.foreign := by
  have all := foreign_stripped s
  unfold stripped at all
  rw [foreign] at all
  rw [foreign, installed, List.filter_append, all]
  exact List.append_nil _

/-- After a set-up there are its two handlers or none, whatever there was before. -/
theorem isTidy_setup (s : State) (d : Demand) : (s.setup d).1.IsTidy := by
  rcases s.setups d with ⟨l, -, same⟩ | ⟨e, -, same⟩
  · rw [same]
    constructor
    · rw [own_installed]
      exact Nat.le_refl 2
    · rw [own_installed, List.forall_mem_cons, List.forall_mem_singleton]
      have new : ∀ p, some s.providers = some p → p < s.providers + 1 := by
        intro p came
        cases came
        exact Nat.lt_succ_self _
      exact ⟨new, new⟩
  · rw [same]
    constructor
    · rw [own_stripped]
      exact Nat.zero_le 2
    · rw [own_stripped]
      exact nofun

theorem filter_isOwn_foreign (before behind : List Handler) (tag : Nat) :
    (before ++ .foreign tag :: behind).filter (·.isOwn) =
      (before ++ behind).filter (·.isOwn) := by
  rw [List.filter_append, List.filter_append, List.filter_cons_of_neg Bool.false_ne_true]

/-- Others leave the handlers of set-ups alone. -/
theorem Meddles.own_eq {t : State} (m : s.Meddles t) : t.own = s.own := by
  cases m with
  | put tag split =>
    unfold own
    rw [split, filter_isOwn_foreign]
  | take split =>
    unfold own
    rw [split, filter_isOwn_foreign]

theorem Meddles.providers_eq {t : State} (m : s.Meddles t) : t.providers = s.providers := by
  cases m with
  | put => rfl
  | take => rfl

theorem Arises.isTidy (h : s.Arises) : s.IsTidy := by
  induction h with
  | first others =>
    constructor
    · rw [own_eq_nil others]
      exact Nat.zero_le 2
    · rw [own_eq_nil others]
      exact nofun
  | setup _ settings name level => exact isTidy_setup _ _
  | others _ m ih =>
    constructor
    · rw [m.own_eq]
      exact ih.few
    · rw [m.own_eq, m.providers_eq]
      exact ih.made

/-- None of the handlers came with a provider that is yet to be made. -/
theorem Arises.provider?_ne (h : s.Arises) : ∀ x ∈ s.handlers, x.provider? ≠ some s.providers := by
  intro x mem came
  cases own : x.isOwn with
  | true => exact Nat.lt_irrefl _ (h.isTidy.made x (List.mem_filter.2 ⟨mem, own⟩) _ came)
  | false =>
    rw [Handler.provider?_of_not_isOwn own] at came
    cases came

/-- The handlers of set-ups are now the two of one that asked for a level: new ones, of a provider
that none of the handlers before came with, and behind all others, the exporter first. -/
structure Replaces (s t : State) (l : Level) : Prop where
  own : t.own = [.exporter l s.providers, .printer s.providers]
  last : t.handlers = t.foreign ++ t.own
  fresh : ∀ h ∈ s.handlers, h.provider? ≠ some s.providers
  level : t.level = l

/-- However set-ups and others take turns, there are never more than two handlers of set-ups. No
set-up touches the handlers of others, and after one that comes through there are exactly its own
two besides them, and the level is the one that it was asked for. -/
theorem setups_never_stack (h : s.Arises) (settings : Settings) (name level : Option String) :
    s.own.length ≤ 2 ∧
      (s.setup (.of settings name level)).1.foreign = s.foreign ∧
      ∀ told, (s.setup (.of settings name level)).2 = .ok told →
        ∃ l, Level.IsNamed (Text.upper (orElse level settings.logLevel)) l ∧
          Replaces s (s.setup (.of settings name level)).1 l := by
  refine ⟨h.isTidy.few, ?_⟩
  rcases s.setups (.of settings name level) with ⟨l, named, same⟩ | ⟨e, -, same⟩
  · rw [same]
    refine ⟨foreign_installed s l, ?_⟩
    intro told _
    refine ⟨l, named, own_installed s l, ?_, h.provider?_ne, rfl⟩
    rw [foreign_installed, own_installed]
    rfl
  · rw [same]
    exact ⟨foreign_stripped s, nofun⟩

/-- The handlers of a set-up for the level of debugging, between two of somebody else's. -/
def shared : State :=
  ⟨[.foreign 0, .exporter .debug 0, .printer 0, .foreign 1], .debug, .warning, 1⟩

/-- A third handler of somebody else's, which was there at first, has been removed. -/
theorem arises_shared : shared.Arises := by
  have first : Arises ⟨[.foreign 2, .foreign 0], .warning, .notSet, 0⟩ := .first (by decide)
  have last := ((first.setup .standard none (some "Debug")).add 1).remove 2
  rwa [show State.remove _ 2 = shared by decide] at last

/-- One more set-up, for a level in another spelling, replaces the handlers of the first one. -/
theorem setups_never_stack_shared :
    shared.own.length = 2 ∧ (shared.setup (.of .standard none (some "Warn"))).1.handlers =
      [.foreign 0, .foreign 1, .exporter .warning 1, .printer 1] := by
  have through : (shared.setup (.of .standard none (some "Warn"))).2 =
      .ok "Webhook TLS Manager" := by decide
  obtain ⟨-, others, replaced⟩ :=
    setups_never_stack arises_shared .standard none (some "Warn")
  obtain ⟨l, named, replaces⟩ := replaced _ through
  have level : l = .warning := by
    rw [← replaces.level]
    decide
  refine ⟨rfl, ?_⟩
  rw [replaces.last, others, replaces.own, level]
  decide

/-! ## Set-ups that fail -/

/-- If the set-up fails, it leaves the handlers and the level as they were. -/
def IsAtomic (s : State) (d : Demand) : Prop :=
  ∀ e, (s.setup d).2 = .error e →
    (s.setup d).1.handlers = s.handlers ∧ (s.setup d).1.level = s.level

/-- The handlers of set-ups are gone, so that none of them prints or exports what is logged. All
else of the root logger and the access log is as it was. -/
structure Strips (s t : State) : Prop where
  handlers : t.handlers = s.foreign
  own : t.own = []
  level : t.level = s.level
  accessLevel : t.accessLevel = s.accessLevel
  printed : ∀ m, t.printed m = []
  exportedBy : ∀ m p, t.exportedBy m p = []

theorem strips_stripped (s : State) : Strips s s.stripped where
  handlers := rfl
  own := own_stripped s
  level := rfl
  accessLevel := rfl
  printed m := by
    have none : s.stripped.handlers.any (·.isPrinter) = false := by
      rw [List.any_eq_false]
      intro h mem
      cases h with
      | exporter => exact Bool.false_ne_true
      | printer => cases isOwn_of_mem_foreign mem
      | foreign => exact Bool.false_ne_true
    unfold printed
    rw [none, Bool.and_false]
    rfl
  exportedBy m p := by
    unfold exportedBy
    rw [List.filterMap_eq_nil_iff]
    intro h mem
    cases h with
    | exporter => cases isOwn_of_mem_foreign mem
    | printer => rfl
    | foreign => rfl

theorem handlers_stripped_iff (s : State) : s.stripped.handlers = s.handlers ↔ s.own = [] := by
  show s.handlers.filter (!·.isOwn) = s.handlers ↔ s.handlers.filter (·.isOwn) = []
  rw [List.filter_eq_self, List.filter_eq_nil_iff]
  simp only [Bool.not_eq_true', Bool.not_eq_true]

theorem setup_eq_error_iff {e : LevelError} :
    (s.setup d).2 = .error e ↔ Level.NamesNone d.levelName e := by
  rw [← Level.ofName_eq_error_iff]
  rcases s.setups d with ⟨l, named, same⟩ | ⟨e', nameless, same⟩
  · rw [same, Level.ofName_eq_ok_iff_isNamed.2 named]
    exact iff_of_false nofun nofun
  · rw [same, Level.ofName_eq_error_iff.2 nameless, Except.error.injEq, Except.error.injEq]

theorem strips_of_setup_eq_error {e : LevelError} (failed : (s.setup d).2 = .error e) :
    Strips s (s.setup d).1 := by
  rw [setup_of_nameless (setup_eq_error_iff.1 failed)]
  exact strips_stripped s

/-- A set-up leaves the log alone in failing if it cannot fail or there is nothing to take away. -/
theorem isAtomic_iff : s.IsAtomic d ↔ (∃ l, Level.IsNamed d.levelName l) ∨ s.own = [] := by
  unfold IsAtomic
  rcases s.setups d with ⟨l, named, same⟩ | ⟨e, nameless, same⟩
  · rw [same]
    exact iff_of_true nofun (.inl ⟨l, named⟩)
  · rw [same, or_iff_right nameless.not_isNamed, ← handlers_stripped_iff]
    constructor
    · intro atomic
      exact (atomic e rfl).1
    · intro kept e' _
      exact ⟨kept, rfl⟩

/-- A set-up fails exactly if no level has the name that is asked for. One that fails takes the
handlers of an earlier set-up away, without putting any in their place. So it leaves the log alone
only where there is nothing to take away. -/
theorem failed_setup (s : State) (settings : Settings) (name level : Option String) :
    (∀ e, (s.setup (.of settings name level)).2 = .error e ↔
        Level.NamesNone (Text.upper (orElse level settings.logLevel)) e) ∧
      (∀ e, (s.setup (.of settings name level)).2 = .error e →
        Strips s (s.setup (.of settings name level)).1) ∧
      (s.IsAtomic (.of settings name level) ↔
        (∃ l, Level.IsNamed (Text.upper (orElse level settings.logLevel)) l) ∨ s.own = []) := by
  refine ⟨?_, ?_, isAtomic_iff⟩
  · intro e
    exact setup_eq_error_iff
  · intro e failed
    exact strips_of_setup_eq_error failed

/-- A set-up for a level that does not exist fails, and silences a log that was set up before. -/
theorem failed_setup_shared :
    (shared.setup (.of .standard none (some "verbose"))).2 = .error (.unknown "VERBOSE") ∧
      Strips shared (shared.setup (.of .standard none (some "verbose"))).1 ∧
      (shared.setup (.of .standard none (some "verbose"))).1.handlers =
        [.foreign 0, .foreign 1] := by
  obtain ⟨-, strips, -⟩ := failed_setup shared .standard none (some "verbose")
  have failed : (shared.setup (.of .standard none (some "verbose"))).2 =
      .error (.unknown "VERBOSE") := by decide
  exact ⟨failed, strips _ failed, (strips _ failed).handlers⟩

/-- Not every set-up that fails leaves the log as it was. -/
theorem not_isAtomic_verbose :
    (shared.setup (.of .standard none (some "verbose"))).1.handlers ≠ shared.handlers ∧
      ¬ ∀ (s : State) (settings : Settings) (name level : Option String),
        s.IsAtomic (.of settings name level) := by
  have changed : (shared.setup (.of .standard none (some "verbose"))).1.handlers ≠
      shared.handlers := by decide
  refine ⟨changed, ?_⟩
  intro atomic
  exact changed (atomic shared .standard none (some "verbose") (.unknown "VERBOSE") (by decide)).1

end State

end CertRenewal.Logging
