import ApiReference.Proofs.Reading
import ApiReference.Session

/-!
# The settings in a session

A session can be given any value for a setting, fit or not, and goes on after a refusal. This file
shows what that leaves of the settings. A change has one of two outcomes, and its value alone
decides which: a value that fits takes effect (`Settings.apply_eq_ok_iff`), any other one is refused
(`Settings.exists_apply_eq_error`). From there the statements go outwards: to several changes in one
request, of which those in front of the first refusal stay (`Settings.applyAll_append`,
`Settings.applyAll_unfit`), to one request of any kind, and by induction to a session of any length
(`Session.valid_settingsAfter`).

What a session remembers is its settings and nothing else (`Session.run_append`), so that resetting
them makes a new session of it.

* **One change is atomic.** A list of prefixes with one that is empty, or with something that is no
  string, is refused as a whole: none of its prefixes is taken over.
* **A request is not.** Several changes in one request are made one after another, and a refusal
  does not undo those in front of it. That is what would happen had they been requested one by one
  (`Session.applyAll_eq_settingsAfter`).
* **Nothing else changes the settings.** Every other request is answered under them and leaves them
  alone.

The invariant that is kept is that no prefix is empty. The scan that strips prefixes would pass over
an empty one, so this is a promise to whoever reads the settings, and not one that the scan depends
on.

## What is here

* `Settings.Change.Fits`, `Settings.Makes`: the values that a setting takes, and what they make of
  it.
* `Request.valid_answer`: the step. A request keeps the settings valid.
* `Session.settings_stay_valid`: the run. The settings at any point of a session, and what every
  further request does to them.
-/

set_option autoImplicit false

namespace ApiReference

/-- The fault is reported as that of a value that a setting does not take. -/
def Fault.IsValidation (fault : Fault) : Prop :=
  ∃ report, fault.report? = some report ∧ report.kind = .validation

/-! ## The values that a setting takes -/

namespace Settings

/-- Every prefix has at least one character. -/
def Valid (settings : Settings) : Prop :=
  ∀ p ∈ settings.strippedPrefixes, p ≠ ""

/-- The value is one that the setting takes: a list of strings that are not empty, or a boolean. -/
def Change.Fits : Change → Prop
  | .strippedPrefixes v => ∃ ps : List String, (∀ p ∈ ps, p ≠ "") ∧ v = .arr (ps.map .str)
  | .debug v => ∃ b, v = .bool b
  | .reset => True

/-- What a change that fits makes of the settings. -/
inductive Makes (settings : Settings) : Change → Settings → Prop where
  | strippedPrefixes {ps : List String} (h : ∀ p ∈ ps, p ≠ "") :
      Makes settings (.strippedPrefixes (.arr (ps.map .str)))
        { settings with strippedPrefixes := ps }
  | debug (b : Bool) : Makes settings (.debug (.bool b)) { settings with debug := b }
  | reset : Makes settings .reset {}

theorem valid_default : Valid {} := by
  intro p hp
  rw [List.mem_singleton.1 hp]
  decide

/-- A change that takes effect leaves valid settings. -/
theorem Makes.valid {settings changed : Settings} {change : Change}
    (h : settings.Makes change changed) (hvalid : settings.Valid) : changed.Valid := by
  cases h with
  | strippedPrefixes h => exact h
  | debug b => exact hvalid
  | reset => exact valid_default

theorem fits_iff_makes (settings : Settings) {change : Change} :
    change.Fits ↔ ∃ changed, settings.Makes change changed := by
  constructor
  · intro h
    cases change with
    | strippedPrefixes v =>
      obtain ⟨ps, hps, rfl⟩ := h
      exact ⟨_, .strippedPrefixes hps⟩
    | debug v =>
      obtain ⟨b, rfl⟩ := h
      exact ⟨_, .debug b⟩
    | reset => exact ⟨_, .reset⟩
  · rintro ⟨changed, h⟩
    cases h with
    | strippedPrefixes h => exact ⟨_, h, rfl⟩
    | debug b => exact ⟨b, rfl⟩
    | reset => trivial

/-! ## One change

A list of prefixes is checked from the front, and what is wrong with it is the first item that is no
prefix. -/

theorem prefixesOf_cons_eq_ok_iff {v : Json} {rest : List Json} {ps : List String} :
    prefixesOf (v :: rest) = .ok ps ↔
      ∃ p qs, v.text? = some p ∧ prefixesOf rest = .ok qs ∧ p :: qs = ps := by
  rw [prefixesOf]
  cases v.text? with
  | none => simp
  | some p =>
    dsimp only
    rw [bind_eq_ok_iff]
    constructor
    · rintro ⟨qs, hqs, h⟩
      exact ⟨p, qs, rfl, hqs, Except.ok.inj h⟩
    · rintro ⟨p', qs, hp, hqs, rfl⟩
      obtain rfl := Option.some.inj hp
      exact ⟨qs, hqs, rfl⟩

theorem prefixesOf_eq_ok_iff {items : List Json} {ps : List String} :
    prefixesOf items = .ok ps ↔ (∀ p ∈ ps, p ≠ "") ∧ items = ps.map .str := by
  induction items generalizing ps with
  | nil =>
    constructor
    · intro h
      obtain rfl : [] = ps := Except.ok.inj h
      exact ⟨nofun, rfl⟩
    · rintro ⟨-, h⟩
      rw [List.map_eq_nil_iff.1 h.symm, prefixesOf]
  | cons v rest ih =>
    rw [prefixesOf_cons_eq_ok_iff]
    constructor
    · rintro ⟨p, qs, hp, hqs, rfl⟩
      obtain ⟨rfl, hne⟩ := Json.text?_eq_some_iff.1 hp
      obtain ⟨hrest, rfl⟩ := ih.1 hqs
      exact ⟨List.forall_mem_cons.2 ⟨hne, hrest⟩, rfl⟩
    · rintro ⟨hps, hitems⟩
      -- a list with an item states at least one prefix
      cases ps with
      | nil => cases hitems
      | cons p qs =>
        obtain ⟨rfl, rfl⟩ := List.cons.inj hitems
        rw [List.forall_mem_cons] at hps
        exact ⟨p, qs, Json.text?_eq_some_iff.2 ⟨rfl, hps.1⟩, ih.2 ⟨hps.2, rfl⟩, rfl⟩

theorem prefixesOf_eq_error {items : List Json} {fault : Fault}
    (h : prefixesOf items = .error fault) : ∃ v, fault = .notAPrefix v := by
  induction items with
  | nil => cases h
  | cons v rest ih =>
    rw [prefixesOf] at h
    split at h
    · cases hrest : prefixesOf rest with
      | ok ps =>
        rw [hrest] at h
        cases h
      | error first =>
        rw [hrest] at h
        obtain rfl : first = fault := Except.error.inj h
        exact ih hrest
    · exact ⟨v, (Except.error.inj h).symm⟩

variable {settings changed : Settings} {change : Change} {fault : Fault}

/-- **A change takes effect exactly if its value fits.** -/
theorem apply_eq_ok_iff : settings.apply change = .ok changed ↔ settings.Makes change changed := by
  constructor
  · intro h
    cases change with
    | strippedPrefixes v =>
      cases v with
      | arr items =>
        rw [apply, bind_eq_ok_iff] at h
        obtain ⟨ps, hread, h⟩ := h
        obtain ⟨hps, rfl⟩ := prefixesOf_eq_ok_iff.1 hread
        exact Except.ok.inj h ▸ .strippedPrefixes hps
      | _ => cases h
    | debug v =>
      cases v with
      | bool b => exact Except.ok.inj h ▸ .debug b
      | _ => cases h
    | reset => exact Except.ok.inj h ▸ .reset
  · intro h
    cases h with
    | strippedPrefixes h => rw [apply, prefixesOf_eq_ok_iff.2 ⟨h, rfl⟩, ok_bind]; rfl
    | debug b => rfl
    | reset => rfl

/-- A value that does not fit is refused, with a report about the setting. -/
theorem isValidation_of_apply (h : settings.apply change = .error fault) : fault.IsValidation := by
  cases change with
  | strippedPrefixes v =>
    cases v with
    | arr items =>
      rw [apply] at h
      -- the items are looked at in order, and the report is about the first that is no string
      cases hps : prefixesOf items with
      | ok ps =>
        rw [hps] at h
        cases h
      | error first =>
        rw [hps] at h
        obtain ⟨v, rfl⟩ := prefixesOf_eq_error hps
        obtain rfl := Except.error.inj h
        exact ⟨_, rfl, rfl⟩
    | _ =>
      obtain rfl := Except.error.inj h
      exact ⟨_, rfl, rfl⟩
  | debug v =>
    cases v with
    | bool b => cases h
    | _ =>
      obtain rfl := Except.error.inj h
      exact ⟨_, rfl, rfl⟩
  | reset => cases h

/-- A value that fits is taken. -/
theorem exists_apply_eq_ok (settings : Settings) (h : change.Fits) :
    ∃ changed, settings.apply change = .ok changed := by
  obtain ⟨changed, hmakes⟩ := (fits_iff_makes settings).1 h
  exact ⟨changed, apply_eq_ok_iff.2 hmakes⟩

theorem exists_apply_eq_error (settings : Settings) (h : ¬ change.Fits) :
    ∃ fault, settings.apply change = .error fault ∧ fault.IsValidation := by
  cases hc : settings.apply change with
  | ok changed => exact absurd ((fits_iff_makes settings).2 ⟨changed, apply_eq_ok_iff.1 hc⟩) h
  | error fault => exact ⟨fault, rfl, isValidation_of_apply hc⟩

/-! ## Several changes -/

/-- Changes that fit all take effect, whatever comes after them. -/
theorem applyAll_append (settings : Settings) {changes : List Change}
    (h : ∀ c ∈ changes, c.Fits) : ∃ changed, settings.applyAll changes = (changed, none) ∧
      ∀ after, settings.applyAll (changes ++ after) = changed.applyAll after := by
  induction changes generalizing settings with
  | nil => exact ⟨settings, rfl, fun _ => rfl⟩
  | cons change rest ih =>
    rw [List.forall_mem_cons] at h
    obtain ⟨next, hnext⟩ := exists_apply_eq_ok settings h.1
    obtain ⟨changed, hrest, hafter⟩ := ih next h.2
    refine ⟨changed, ?_, fun after => ?_⟩
    · rw [applyAll, hnext]
      exact hrest
    · rw [List.cons_append, applyAll, hnext]
      exact hafter after

/-- A change that is refused ends the changes, and those in front of it stay. -/
theorem applyAll_unfit (settings : Settings) {before : List Change} {change : Change}
    (hbefore : ∀ c ∈ before, c.Fits) (h : ¬ change.Fits) (after : List Change) :
    ∃ fault, fault.IsValidation ∧ settings.applyAll (before ++ change :: after) =
      ((settings.applyAll before).1, some fault) := by
  obtain ⟨changed, hall, happend⟩ := applyAll_append settings hbefore
  obtain ⟨fault, hfault, hvalidation⟩ := exists_apply_eq_error changed h
  refine ⟨fault, hvalidation, ?_⟩
  rw [happend, hall, applyAll, hfault]

/-- Changes keep the settings valid, also if one of them is refused. -/
theorem Valid.applyAll (h : settings.Valid) (changes : List Change) :
    (settings.applyAll changes).1.Valid := by
  induction changes generalizing settings with
  | nil => exact h
  | cons change rest ih =>
    rw [Settings.applyAll]
    cases hc : settings.apply change with
    | ok changed => exact ih ((apply_eq_ok_iff.1 hc).valid h)
    | error fault => exact h

end Settings

/-! ## One request -/

namespace Request

variable {settings : Settings}

/-- Only a change of the settings changes them. -/
theorem answer_fst_of_ne {request : Request} (h : ∀ changes, request ≠ .configure changes)
    (settings : Settings) : (request.answer settings).1 = settings := by
  cases request with
  | configure changes => exact absurd rfl (h changes)
  | _ => rfl

/-- Changes that fit are answered with the settings that they lead to. -/
theorem answer_configure_of_applyAll {changed : Settings} {changes : List Settings.Change}
    (h : settings.applyAll changes = (changed, none)) :
    (configure changes).answer settings = (changed, pure (settingsJson changed)) := by
  rw [answer, h]

theorem answer_configure_of_fault {changed : Settings} {changes : List Settings.Change}
    {fault : Fault} (h : settings.applyAll changes = (changed, some fault)) :
    (configure changes).answer settings = (changed, Reading.fail fault) := by
  rw [answer, h]

theorem answer_configure_fst (settings : Settings) (changes : List Settings.Change) :
    ((configure changes).answer settings).1 = (settings.applyAll changes).1 := by
  rw [answer]
  split <;> next h => rw [h]

theorem answer_change_eq_iff {changed : Settings} {change : Settings.Change} :
    (configure [change]).answer settings = (changed, pure (settingsJson changed)) ↔
      settings.Makes change changed := by
  rw [← Settings.apply_eq_ok_iff, answer, Settings.applyAll]
  cases settings.apply change with
  | ok next =>
    constructor
    · intro h
      rw [(Prod.mk.inj h).1]
    · intro h
      obtain rfl := Except.ok.inj h
      rfl
  | error fault =>
    refine ⟨fun h => ?_, nofun⟩
    cases (Prod.mk.inj h).2

/-- A change is refused, and changes nothing, exactly if its value does not fit. -/
theorem exists_refused_iff {change : Settings.Change} :
    (∃ fault, fault.IsValidation ∧
      (configure [change]).answer settings = (settings, Reading.fail fault)) ↔ ¬ change.Fits := by
  constructor
  · rintro ⟨fault, -, h⟩ hfits
    obtain ⟨changed, hc⟩ := Settings.exists_apply_eq_ok settings hfits
    have hall : settings.applyAll [change] = (changed, none) := by
      rw [Settings.applyAll, hc]
      rfl
    rw [answer_configure_of_applyAll hall] at h
    cases (Prod.mk.inj h).2
  · intro hunfit
    obtain ⟨fault, hfault, hall⟩ :=
      Settings.applyAll_unfit settings (List.forall_mem_nil Settings.Change.Fits) hunfit []
    exact ⟨fault, hfault, answer_configure_of_fault hall⟩

/-- **A request keeps the settings valid**, whether it is answered or refused. -/
theorem valid_answer (h : settings.Valid) (request : Request) :
    (request.answer settings).1.Valid := by
  cases request with
  | configure changes =>
    rw [answer_configure_fst]
    exact h.applyAll changes
  | _ => exact h

end Request

/-! ## A session -/

namespace Session

/-- The settings after requests made one after another. -/
def settingsAfter (settings : Settings) : List Request → Settings
  | [] => settings
  | request :: rest => settingsAfter (request.answer settings).1 rest

/-- **A session remembers its settings only**: after some requests it goes on like a session that
begins with the settings that they left. -/
theorem run_append (settings : Settings) (requests others : List Request) :
    run settings (requests ++ others) =
      run settings requests ++ run (settingsAfter settings requests) others := by
  induction requests generalizing settings with
  | nil => rfl
  | cons request rest ih =>
    rw [List.cons_append, run, run, settingsAfter, List.cons_append]
    exact congrArg ((request.answer settings).2 :: ·) (ih _)

/-- **The settings are valid at every point of a session.** -/
theorem valid_settingsAfter {settings : Settings} (h : settings.Valid) (requests : List Request) :
    (settingsAfter settings requests).Valid := by
  induction requests generalizing settings with
  | nil => exact h
  | cons request rest ih => exact ih (Request.valid_answer h request)

/-- From a reset on, a session answers like a new one. -/
theorem run_reset (settings : Settings) {before : List Settings.Change}
    (hbefore : ∀ c ∈ before, c.Fits) (after : List Settings.Change) (later : List Request) :
    run settings (.configure (before ++ .reset :: after) :: later) =
      run {} (.configure after :: later) := by
  obtain ⟨changed, -, happend⟩ := Settings.applyAll_append settings hbefore
  have hall : settings.applyAll (before ++ .reset :: after) = Settings.applyAll {} after :=
    happend (.reset :: after)
  rw [run, run, Request.answer, Request.answer, hall]

/-- Changes that fit make of the settings what they make of them one request at a time. -/
theorem applyAll_eq_settingsAfter (settings : Settings) {changes : List Settings.Change}
    (h : ∀ c ∈ changes, c.Fits) : settings.applyAll changes =
      (settingsAfter settings (changes.map fun c => .configure [c]), none) := by
  induction changes generalizing settings with
  | nil => rfl
  | cons change rest ih =>
    rw [List.forall_mem_cons] at h
    obtain ⟨changed, hc⟩ := Settings.exists_apply_eq_ok settings h.1
    have hanswer : ((Request.configure [change]).answer settings).1 = changed := by
      rw [Request.answer_configure_fst, Settings.applyAll, hc]
      rfl
    rw [List.map_cons, settingsAfter, hanswer, Settings.applyAll, hc]
    exact ih changed h.2

/-- **The settings in a session.** Whatever was requested before: the prefixes have at least one
character each, and what a session shows of its settings are those prefixes and a boolean. A change
takes effect if its value fits. If it does not, it is refused by a validation error: the settings
are as before, or as the changes in front of it in the same request left them, and the changes
behind it are not made. No other request changes the settings. Once they have been reset, a session
answers like a new one. -/
theorem settings_stay_valid (requests : List Request) :
    let now := settingsAfter {} requests
    (∀ p ∈ now.strippedPrefixes, p ≠ "") ∧
    (∀ later, run {} (requests ++ .configure [] :: later) = run {} requests ++
      pure (.obj
        [("stripped_prefixes", .arr (now.strippedPrefixes.map .str)), ("debug", .bool now.debug),
          ("repr", .str now.display)]) :: run now later) ∧
    (∀ change changed, (Request.configure [change]).answer now =
      (changed, pure (Request.settingsJson changed)) ↔ now.Makes change changed) ∧
    (∀ change : Settings.Change, (∃ fault, fault.IsValidation ∧
      (Request.configure [change]).answer now = (now, Reading.fail fault)) ↔ ¬ change.Fits) ∧
    (∀ before change after, (∀ c ∈ before, Settings.Change.Fits c) → ¬ change.Fits →
      ∃ fault, fault.IsValidation ∧ (Request.configure (before ++ change :: after)).answer now =
        (settingsAfter now (before.map fun c => .configure [c]), Reading.fail fault)) ∧
    (∀ request : Request, (∀ changes, request ≠ .configure changes) →
      (request.answer now).1 = now) ∧
    (∀ before after later, (∀ c ∈ before, Settings.Change.Fits c) →
      run {} (requests ++ .configure (before ++ .reset :: after) :: later) =
        run {} requests ++ run {} (.configure after :: later)) := by
  intro now
  refine ⟨valid_settingsAfter Settings.valid_default requests, fun later => ?_,
    fun _ _ => Request.answer_change_eq_iff, fun _ => Request.exists_refused_iff,
    fun before change after hbefore hchange => ?_, fun request h => Request.answer_fst_of_ne h now,
    fun before after later hbefore => ?_⟩
  · rw [run_append]
    rfl
  · obtain ⟨fault, hfault, hall⟩ := Settings.applyAll_unfit now hbefore hchange after
    rw [applyAll_eq_settingsAfter now hbefore] at hall
    exact ⟨fault, hfault, Request.answer_configure_of_fault hall⟩
  · rw [run_append, run_reset now hbefore]

theorem settings_stay_valid_mixed :
    let firstPrefix := Settings.Change.strippedPrefixes (.arr [.str "a."])
    let badList := Settings.Change.strippedPrefixes (.arr [.str "b.", .str ""])
    let requests := [Request.configure [firstPrefix, .debug (.int 1)], .render .null]
    settingsAfter {} requests = { strippedPrefixes := ["a."], debug := false } ∧
    (∃ fault, fault.IsValidation ∧ (Request.configure [.debug (.int 1)]).answer
      (settingsAfter {} requests) = (settingsAfter {} requests, Reading.fail fault)) ∧
    (∃ fault, fault.IsValidation ∧
      (Request.configure [.debug (.bool true), badList, .reset]).answer
          (settingsAfter {} requests) =
        ({ strippedPrefixes := ["a."], debug := true }, Reading.fail fault)) ∧
    run {} (requests ++ [.configure [.reset], .strip (.str "defines.x") .null]) =
      run {} requests ++ run {} [.configure [], .strip (.str "defines.x") .null] := by
  intro firstPrefix badList requests
  have hbad : ¬ badList.Fits := by
    rintro ⟨ps, hps, h⟩
    have hmem : Json.str "" ∈ ps.map Json.str := by
      rw [← Json.arr.inj h]
      simp
    obtain ⟨p, hp, he⟩ := List.mem_map.1 hmem
    exact hps p hp (Json.str.inj he)
  obtain ⟨-, -, -, hrefused, hstop, -, hreset⟩ := settings_stay_valid requests
  have hdebug : ∀ c ∈ [Settings.Change.debug (.bool true)], c.Fits := by
    rw [List.forall_mem_singleton]
    exact ⟨true, rfl⟩
  exact ⟨rfl, (hrefused _).2 nofun, hstop _ badList [.reset] hdebug hbad, hreset [] [] _ nofun⟩

end Session
end ApiReference
