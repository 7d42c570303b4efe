import TextTemplate.Proofs.CacheHistory
import TextTemplate.Proofs.SessionHistory

/-!
The cache of templates as a memory of what compiled. Whatever is asked of a workspace, the sources
that are stored are those that compiled since the cache of templates was last cleared, each once.
Between two clearings a stored source gives the instance that was stored first and changes nothing,
whatever happens to the formatters; a source that fails stores nothing and fails alike every time;
and behind a clearing every template is another instance.
-/
namespace TextTemplate
open FormatCache

namespace TemplateCache

/-- The sources that are stored. -/
def keys (cache : TemplateCache) : List String :=
  cache.stored.map (·.1)

theorem get?_eq_none_iff {cache : TemplateCache} {source : String} :
    cache.get? source = none ↔ source ∉ cache.keys := by
  rw [get?, List.lookup_eq_none_iff, keys, List.mem_map]
  grind

theorem mem_keys_iff {cache : TemplateCache} {source : String} :
    source ∈ cache.keys ↔ ∃ stored, cache.get? source = some stored := by
  rw [← Option.ne_none_iff_exists', Ne, get?_eq_none_iff, not_not]

theorem mem_of_get? {cache : TemplateCache} {source : String} {stored : StoredTemplate}
    (h : cache.get? source = some stored) : (source, stored) ∈ cache.stored := by
  obtain ⟨front, back, hsplit, -⟩ := List.lookup_eq_some_iff.1 h
  simp [hsplit]

end TemplateCache

namespace Workspace
open TemplateCache

/-- What can be asked of the cache of templates, and of the compiler and the cache of formatters
behind it. -/
inductive Action where
  | getOrCompile (source : String)
  | size
  | clear
  | compile (source : String)
  | emit (source : String) (collected : List String)
  | formats (action : FormatCache.Action)
deriving DecidableEq, Repr

inductive Answer where
  | template (outcome : Except CompileError StoredTemplate)
  | counted (size : Nat)
  | cleared
  | compiled (outcome : Except CompileError CompiledTemplate)
  | emitted (outcome : Except CompileError String) (collected : List String)
  | formats (answer : FormatCache.Answer)
deriving Repr

/-- The answer to an action, and the workspace after it. -/
def perform (w : Workspace) : Action → Answer × Workspace
  | .getOrCompile source => (.template (w.getOrCompile source).1, (w.getOrCompile source).2)
  | .size => (.counted w.templates.size, w)
  | .clear => (.cleared, w.clearTemplates)
  | .compile source => (.compiled (w.compile source).1, (w.compile source).2)
  | .emit source collected =>
    let (outcome, collected, w) := w.emit source collected
    (.emitted outcome collected, w)
  | .formats action =>
    let (answer, formats) := w.formats.perform action
    (.formats answer, { w with formats })

def run (w : Workspace) (actions : List Action) : Workspace :=
  actions.foldl (fun w action => (w.perform action).2) w

/-- What is stored is what building it afresh gives, each source once, and no serial number is used
twice. -/
structure Memoized (w : Workspace) : Prop extends w.Valid where
  keys_nodup : w.templates.keys.Nodup
  serials : (w.templates.stored.map (·.2.serial)).Pairwise (· > ·)
  serial_lt : ∀ entry ∈ w.templates.stored, entry.2.serial < w.templates.built

theorem memoized_of_stored_eq_nil {w : Workspace} (hf : w.formats.WellFormed)
    (h : w.templates.stored = []) : w.Memoized where
  formats := hf
  templates hget := by simp [TemplateCache.get?, h] at hget
  keys_nodup := by simp [TemplateCache.keys, h]
  serials := by simp [h]
  serial_lt := by simp [h]

theorem Memoized.push {w : Workspace} (h : w.Memoized) {formats : FormatCache}
    (hf : formats.WellFormed) {template : CompiledTemplate}
    (hnew : w.templates.get? template.source = none)
    (hfresh : CompiledTemplate.fresh template.source = .ok template) :
    { w with templates := w.templates.push template, formats }.Memoized where
  toValid := valid_push h.toValid hf hfresh
  keys_nodup := List.nodup_cons.2 ⟨get?_eq_none_iff.1 hnew, h.keys_nodup⟩
  serials := by
    refine .cons ?_ h.serials
    rw [List.forall_mem_map]
    exact h.serial_lt
  serial_lt := by
    refine List.forall_mem_cons.2 ⟨Nat.lt_succ_self _, fun entry hentry => ?_⟩
    exact Nat.lt_succ_of_lt (h.serial_lt entry hentry)

theorem Memoized.with_formats {w : Workspace} (h : w.Memoized) {formats : FormatCache}
    (hf : formats.WellFormed) : { w with formats }.Memoized :=
  ⟨valid_with_formats h.toValid hf, h.keys_nodup, h.serials, h.serial_lt⟩

/-- What an action does to the templates: nothing, or it stores the fresh template of a new source
and answers with it, or it drops them all. -/
theorem Memoized.after_perform {w : Workspace} (h : w.Memoized) (action : Action) :
    ∃ formats, formats.WellFormed ∧
      ((w.perform action).2 = { w with formats } ∨
        (∃ template, action = .getOrCompile template.source ∧
          w.templates.get? template.source = none ∧
          CompiledTemplate.fresh template.source = .ok template ∧
          w.perform action = (.template (.ok ⟨w.templates.built, template⟩),
            { w with templates := w.templates.push template, formats })) ∨
        action = .clear ∧
          (w.perform action).2 = { w with templates := w.templates.clear, formats }) := by
  cases action with
  | getOrCompile source =>
      obtain ⟨stored, -, heq⟩ | ⟨formats, hf, hget, ⟨template, hfresh, rfl, heq⟩ |
        ⟨e, hfresh, heq⟩⟩ := getOrCompile_cases h.toValid source
      · exact ⟨w.formats, h.formats, .inl (by rw [perform, heq])⟩
      · exact ⟨formats, hf, .inr (.inl ⟨template, rfl, hget, hfresh, by rw [perform, heq]⟩)⟩
      · exact ⟨formats, hf, .inl (by rw [perform, heq])⟩
  | size => exact ⟨w.formats, h.formats, .inl rfl⟩
  | clear => exact ⟨w.formats, h.formats, .inr (.inr ⟨rfl, rfl⟩)⟩
  | compile source => exact ⟨_, (compile_outcome h.toValid source).2.formats, .inl rfl⟩
  | emit source collected => exact ⟨_, (Emission.grown_ofSource h.formats).wellFormed, .inl rfl⟩
  | formats action => exact ⟨_, h.formats.perform action, .inl rfl⟩

theorem Memoized.perform {w : Workspace} (h : w.Memoized) (action : Action) :
    (w.perform action).2.Memoized := by
  obtain ⟨formats, hf, heq | ⟨template, -, hget, hfresh, heq⟩ | ⟨-, heq⟩⟩ := h.after_perform action
    <;> rw [heq]
  · exact h.with_formats hf
  · exact h.push hf hget hfresh
  · exact memoized_of_stored_eq_nil hf rfl

theorem Memoized.run {w : Workspace} (h : w.Memoized) (actions : List Action) :
    (w.run actions).Memoized :=
  List.foldlRecOn (motive := Memoized) actions _ h fun _ h action _ => h.perform action

/-- What each action of a run keeps, the run keeps. -/
theorem Memoized.run_of_perform {w : Workspace} (h : w.Memoized) {P : Workspace → Prop}
    {actions : List Action} (hstart : P w)
    (hperform : ∀ v : Workspace, v.Memoized → P v → ∀ action ∈ actions, P (v.perform action).2) :
    P (w.run actions) := by
  have hboth : (w.run actions).Memoized ∧ P (w.run actions) :=
    List.foldlRecOn (motive := fun v => v.Memoized ∧ P v) actions _ ⟨h, hstart⟩
      fun v hv action hmem => ⟨hv.1.perform action, hperform v hv.1 hv.2 action hmem⟩
  exact hboth.2

theorem run_append (w : Workspace) (actions others : List Action) :
    w.run (actions ++ others) = (w.run actions).run others :=
  List.foldl_append

/-- A stored source gives its instance, and nothing changes. -/
theorem perform_of_get? {w : Workspace} {source : String} {stored : StoredTemplate}
    (h : w.templates.get? source = some stored) :
    w.perform (.getOrCompile source) = (.template (.ok stored), w) := by
  simp [Workspace.perform, Workspace.getOrCompile, TemplateCache.getOrCompile, h]

theorem Memoized.get?_perform {w : Workspace} (h : w.Memoized) {source : String}
    {stored : StoredTemplate} (hget : w.templates.get? source = some stored) {action : Action}
    (hclear : action ≠ .clear) : (w.perform action).2.templates.get? source = some stored := by
  obtain ⟨formats, -, heq | ⟨template, -, hnew, -, heq⟩ | ⟨rfl, -⟩⟩ := h.after_perform action
  · rw [heq]
    exact hget
  · have hother : source ≠ template.source := by
      rintro rfl
      rw [hnew] at hget
      cases hget
    rw [heq, TemplateCache.get?_push, if_neg hother]
    exact hget
  · exact absurd rfl hclear

theorem Memoized.get?_run {w : Workspace} (h : w.Memoized) {source : String}
    {stored : StoredTemplate} (hget : w.templates.get? source = some stored)
    {actions : List Action} (hclear : .clear ∉ actions) :
    (w.run actions).templates.get? source = some stored := by
  refine h.run_of_perform (P := fun v => v.templates.get? source = some stored) hget ?_
  intro v hv hget action hmem
  refine hv.get?_perform hget ?_
  rintro rfl
  exact hclear hmem

/-- An action keeps the sources that are stored, unless it drops them, and adds the one that it is
answered with a template of. -/
theorem Memoized.mem_keys_perform {w : Workspace} (h : w.Memoized) (action : Action)
    (source : String) :
    source ∈ (w.perform action).2.templates.keys ↔
      (source ∈ w.templates.keys ∧ action ≠ .clear) ∨
        ∃ stored, action = .getOrCompile source ∧
          (w.perform action).1 = .template (.ok stored) := by
  cases action with
  | getOrCompile requested =>
      simp only [Workspace.perform, ne_eq, reduceCtorEq, not_false_eq_true, and_true,
        Action.getOrCompile.injEq, Answer.template.injEq]
      obtain ⟨stored, hget, heq⟩ | ⟨formats, -, -, ⟨template, -, rfl, heq⟩ | ⟨e, -, heq⟩⟩ :=
        getOrCompile_cases h.toValid requested <;> rw [heq]
      · have hmem := mem_keys_iff.2 ⟨stored, hget⟩
        grind
      · simp [TemplateCache.keys, TemplateCache.push, or_comm, eq_comm]
      · simp
  | size | compile _ | emit _ _ | formats _ => simp [Workspace.perform, compile, emit]
  | clear => simp [Workspace.perform, clearTemplates, TemplateCache.clear, TemplateCache.keys]

/-- The sources that are stored are those that compiled since the last clearing. -/
theorem Memoized.mem_keys_run {w : Workspace} (h : w.Memoized) (history : List Action)
    (source : String) :
    source ∈ (w.run history).templates.keys ↔
      (source ∈ w.templates.keys ∧ .clear ∉ history) ∨
        ∃ front back stored, history = front ++ .getOrCompile source :: back ∧ .clear ∉ back ∧
          ((w.run front).perform (.getOrCompile source)).1 = .template (.ok stored) := by
  induction history generalizing w with
  | nil => simp [Workspace.run]
  | cons action history ih =>
      have hrun : w.run (action :: history) = (w.perform action).2.run history := rfl
      rw [hrun, ih (h.perform action), h.mem_keys_perform action]
      constructor
      · rintro (⟨⟨hmem, hne⟩ | ⟨stored, rfl, hanswer⟩, hclear⟩ |
          ⟨front, back, stored, rfl, hclear, hanswer⟩)
        · exact .inl ⟨hmem, by simp [Ne.symm hne, hclear]⟩
        · exact .inr ⟨[], history, stored, rfl, hclear, hanswer⟩
        · exact .inr ⟨action :: front, back, stored, rfl, hclear, hanswer⟩
      · rintro (⟨hmem, hclear⟩ | ⟨front, back, stored, hhistory, hclear, hanswer⟩)
        · rw [List.mem_cons, not_or] at hclear
          exact .inl ⟨.inl ⟨hmem, Ne.symm hclear.1⟩, hclear.2⟩
        · cases front with
          | nil =>
              cases hhistory
              exact .inl ⟨.inr ⟨stored, rfl, hanswer⟩, hclear⟩
          | cons first front =>
              cases hhistory
              exact .inr ⟨front, back, stored, rfl, hclear, hanswer⟩

/-- All templates that a cache has or will store have at least this serial number. -/
structure NewerThan (serial : Nat) (cache : TemplateCache) : Prop where
  built : serial ≤ cache.built
  stored : ∀ entry ∈ cache.stored, serial ≤ entry.2.serial

theorem NewerThan.perform {w : Workspace} {serial : Nat} (h : NewerThan serial w.templates)
    (hw : w.Memoized) (action : Action) : NewerThan serial (w.perform action).2.templates := by
  obtain ⟨formats, -, heq | ⟨template, -, -, -, heq⟩ | ⟨-, heq⟩⟩ := hw.after_perform action <;>
    rw [heq]
  · exact h
  · exact ⟨Nat.le_succ_of_le h.built, List.forall_mem_cons.2 ⟨h.built, h.stored⟩⟩
  · exact ⟨h.built, by simp [TemplateCache.clear]⟩

theorem NewerThan.run {w : Workspace} {serial : Nat} (h : NewerThan serial w.templates)
    (hw : w.Memoized) (actions : List Action) : NewerThan serial (w.run actions).templates := by
  refine hw.run_of_perform (P := fun v => NewerThan serial v.templates) h ?_
  exact fun v hv hnewer action _ => hnewer.perform hv action

theorem Memoized.built_le_perform {w : Workspace} (h : w.Memoized) (action : Action) :
    w.templates.built ≤ (w.perform action).2.templates.built := by
  obtain ⟨formats, -, heq | ⟨template, -, -, -, heq⟩ | ⟨-, heq⟩⟩ := h.after_perform action
  · exact Nat.le_of_eq (congrArg (·.templates.built) heq).symm
  · exact Nat.le_trans (Nat.le_succ _) (Nat.le_of_eq (congrArg (·.2.templates.built) heq).symm)
  · exact Nat.le_of_eq (congrArg (·.templates.built) heq).symm

theorem Memoized.built_le_run {w : Workspace} (h : w.Memoized) (actions : List Action) :
    w.templates.built ≤ (w.run actions).templates.built := by
  refine h.run_of_perform (P := fun v => w.templates.built ≤ v.templates.built) (Nat.le_refl _) ?_
  exact fun v hv hle action _ => Nat.le_trans hle (hv.built_le_perform action)

/-- After a clearing no template that was stored before is left. -/
theorem Memoized.newerThan_run {w : Workspace} (h : w.Memoized) {actions : List Action}
    (hclear : .clear ∈ actions) : NewerThan w.templates.built (w.run actions).templates := by
  obtain ⟨front, rest, rfl⟩ := List.append_of_mem hclear
  have hfront := h.run front
  have hcleared : NewerThan w.templates.built ((w.run front).perform .clear).2.templates :=
    ⟨h.built_le_run front, by simp [Workspace.perform, clearTemplates, TemplateCache.clear]⟩
  rw [run_append]
  exact hcleared.run (hfront.perform .clear) rest

/-- A source that compiles is stored behind every request for it. -/
theorem Memoized.getOrCompile_ok {w : Workspace} (h : w.Memoized) {source : String}
    {template : CompiledTemplate} (hfresh : CompiledTemplate.fresh source = .ok template) :
    ∃ stored after, w.getOrCompile source = (.ok stored, after) ∧ stored.template = template ∧
      after.templates.get? source = some stored := by
  obtain ⟨stored, hget, heq⟩ | ⟨formats, -, -, ⟨other, hother, rfl, heq⟩ | ⟨e, he, -⟩⟩ :=
    getOrCompile_cases h.toValid source
  · have htemplate := h.templates hget
    rw [hfresh] at htemplate
    exact ⟨stored, w, heq, (Except.ok.inj htemplate).symm, hget⟩
  · rw [hother] at hfresh
    exact ⟨_, _, heq, Except.ok.inj hfresh, by rw [TemplateCache.get?_push, if_pos rfl]⟩
  · rw [hfresh] at he
    cases he

/-- A source that does not compile leaves the templates as they are. -/
theorem Memoized.getOrCompile_error {w : Workspace} (h : w.Memoized) {source : String}
    {e : CompileError} (hfresh : CompiledTemplate.fresh source = .error e) :
    ∃ after, w.getOrCompile source = (.error e, after) ∧ after.templates = w.templates := by
  obtain ⟨stored, hget, -⟩ | ⟨formats, -, -, ⟨template, htemplate, -, -⟩ | ⟨e', he, heq⟩⟩ :=
    getOrCompile_cases h.toValid source
  · have htemplate := h.templates hget
    rw [hfresh] at htemplate
    cases htemplate
  · rw [hfresh] at htemplate
    cases htemplate
  · rw [hfresh] at he
    cases he
    exact ⟨_, heq, rfl⟩

theorem fresh_of_perform {w after : Workspace} (h : w.Memoized) {source : String}
    {outcome : Except CompileError StoredTemplate}
    (heq : w.perform (.getOrCompile source) = (.template outcome, after)) :
    CompiledTemplate.fresh source = outcome.map (·.template) := by
  rw [Workspace.perform, Prod.mk.injEq, Answer.template.injEq] at heq
  rw [← heq.1]
  exact (getOrCompile_outcome h.toValid source).1.symm

/-- A source that fails leaves the templates as they are, and fails again at every later request. -/
theorem Memoized.fails_again {w after : Workspace} (h : w.Memoized) {source : String}
    {e : CompileError}
    (heq : w.perform (.getOrCompile source) = (.template (.error e), after)) :
    after.templates = w.templates ∧ ∀ further,
      ((after.run further).perform (.getOrCompile source)).1 = .template (.error e) := by
  have hfresh := fresh_of_perform h heq
  obtain ⟨after', heq', hsame⟩ := h.getOrCompile_error hfresh
  have hafter := h.perform (.getOrCompile source)
  rw [Workspace.perform, heq'] at heq
  cases heq
  rw [Workspace.perform, heq'] at hafter
  refine ⟨hsame, fun further => ?_⟩
  obtain ⟨last, hlast, -⟩ := (hafter.run further).getOrCompile_error hfresh
  rw [Workspace.perform, hlast]

/-- Behind a clearing a source that was stored is given another instance of the same template. -/
theorem Memoized.renewed {w : Workspace} (h : w.Memoized) {source : String}
    {stored : StoredTemplate} (hget : w.templates.get? source = some stored)
    {further : List Action} (hclear : .clear ∈ further) :
    (∀ entry ∈ (w.run further).templates.stored, entry.2.serial ≠ stored.serial) ∧
    ∃ stored' after,
      (w.run further).perform (.getOrCompile source) = (.template (.ok stored'), after) ∧
      stored'.template = stored.template ∧ stored'.serial ≠ stored.serial := by
  have hlater := h.run further
  have hnewer := h.newerThan_run hclear
  have hlt : stored.serial < w.templates.built := h.serial_lt _ (mem_of_get? hget)
  obtain ⟨stored', after, heq, htemplate, hget'⟩ := hlater.getOrCompile_ok (h.templates hget)
  refine ⟨fun entry hentry => ?_, stored', after, by rw [Workspace.perform, heq], htemplate, ?_⟩
  · have hle := hnewer.stored entry hentry
    omega
  · have hafter := hnewer.perform hlater (.getOrCompile source)
    rw [Workspace.perform, heq] at hafter
    have hle : w.templates.built ≤ stored'.serial := hafter.stored _ (mem_of_get? hget')
    omega

/-- Whatever was asked of a workspace, the sources that are stored are those that compiled since the
last clearing of the templates, each once. Until the next clearing a stored source gives the
instance that was stored for it and changes neither cache, whatever happens to the formatters; a
source that fails stores nothing and fails in the same way ever after; and behind a clearing every
template is another instance. -/
theorem run_memoizes (parameter : String) (history : List Action) :
    let w := ({ parameter } : Workspace).run history
    (w.templates.keys.Nodup ∧ (w.templates.stored.map (·.2.serial)).Nodup ∧
      (∀ source, source ∈ w.templates.keys ↔
        ∃ front back stored, history = front ++ .getOrCompile source :: back ∧ .clear ∉ back ∧
          ((({ parameter } : Workspace).run front).perform (.getOrCompile source)).1 =
            .template (.ok stored)) ∧
      w.perform .size = (.counted w.templates.keys.length, w)) ∧
    (∀ source stored after, w.perform (.getOrCompile source) = (.template (.ok stored), after) →
      after.templates.get? source = some stored) ∧
    (∀ source stored, w.templates.get? source = some stored → stored.template.source = source ∧
      ∀ further, .clear ∉ further →
        (w.run further).perform (.getOrCompile source) =
          (.template (.ok stored), w.run further)) ∧
    (∀ source e after, w.perform (.getOrCompile source) = (.template (.error e), after) →
      after.templates = w.templates ∧ ∀ further,
        ((after.run further).perform (.getOrCompile source)).1 = .template (.error e)) ∧
    ∀ source stored, w.templates.get? source = some stored → ∀ further, .clear ∈ further →
      (∀ entry ∈ (w.run further).templates.stored, entry.2.serial ≠ stored.serial) ∧
      ∃ stored' after,
        (w.run further).perform (.getOrCompile source) = (.template (.ok stored'), after) ∧
        stored'.template = stored.template ∧ stored'.serial ≠ stored.serial := by
  intro w
  have hstart : ({ parameter } : Workspace).Memoized :=
    memoized_of_stored_eq_nil wellFormed_empty rfl
  have hw : w.Memoized := hstart.run history
  refine ⟨⟨hw.keys_nodup, hw.serials.imp fun hlt => Nat.ne_of_gt hlt, fun source => ?_, ?_⟩,
    ?_, ?_, ?_, ?_⟩
  · rw [hstart.mem_keys_run history source]
    simp [TemplateCache.keys, TemplateCache.empty]
  · simp [Workspace.perform, TemplateCache.size, TemplateCache.keys]
  · intro source stored after heq
    obtain ⟨stored', after', heq', -, hget⟩ := hw.getOrCompile_ok (fresh_of_perform hw heq)
    rw [Workspace.perform, heq'] at heq
    cases heq
    exact hget
  · intro source stored hget
    refine ⟨CompiledTemplate.source_of_compile (Prod.ext (hw.templates hget) rfl), ?_⟩
    exact fun further hclear => perform_of_get? (hw.get?_run hget hclear)
  · exact fun source e after heq => hw.fails_again heq
  · exact fun source stored hget further hclear => hw.renewed hget hclear

/-- The formatter of a stored template is dropped, another source fails in front of that and behind
it, and the templates are dropped in the end. -/
theorem run_memoizes_cleared :
    let source := "a\x7b\x7bp|number:'d'\x7d\x7d"
    let w := ({ parameter := "obj" } : Workspace).run
      [.getOrCompile source, .getOrCompile "\x7b\x7bp|number:'q'\x7d\x7d", .formats .clear]
    w.perform .size = (.counted 1, w) ∧
    ∃ stored, w.templates.get? source = some stored ∧ stored.template.source = source ∧
      (w.run [.formats .clear, .compile source]).perform (.getOrCompile source) =
        (.template (.ok stored), w.run [.formats .clear, .compile source]) ∧
      (∃ e after, w.perform (.getOrCompile "\x7b\x7b") = (.template (.error e), after) ∧
        after.templates = w.templates ∧
        ((after.run [.clear]).perform (.getOrCompile "\x7b\x7b")).1 = .template (.error e)) ∧
      ∃ stored' after,
        (w.run [.clear]).perform (.getOrCompile source) = (.template (.ok stored'), after) ∧
        stored'.serial ≠ stored.serial := by
  intro source w
  obtain ⟨⟨-, -, -, hsize⟩, -, hstored, hfails, hcleared⟩ := run_memoizes "obj"
    [.getOrCompile source, .getOrCompile "\x7b\x7bp|number:'q'\x7d\x7d", .formats .clear]
  have hkeys : w.templates.keys = [source] := by decide +kernel
  have hsome : (w.templates.get? source).isSome = true := by decide +kernel
  obtain ⟨stored, hget⟩ := Option.isSome_iff_exists.1 hsome
  obtain ⟨hsource, hagain⟩ := hstored source stored hget
  have hfault : (w.getOrCompile "\x7b\x7b").1 =
      .error ⟨.unterminatedInterpolation, ⟨0, 2⟩⟩ := by decide +kernel
  have hanswer : w.perform (.getOrCompile "\x7b\x7b") =
      (.template (.error ⟨.unterminatedInterpolation, ⟨0, 2⟩⟩), (w.getOrCompile "\x7b\x7b").2) := by
    rw [perform, hfault]
  obtain ⟨hsame, hever⟩ := hfails _ _ _ hanswer
  obtain ⟨-, stored', after, heq, -, hserial⟩ := hcleared source stored hget [.clear] (by simp)
  exact ⟨by rw [hsize, hkeys]; rfl, stored, hget, hsource, hagain _ (by simp),
    ⟨_, _, hanswer, hsame, hever [.clear]⟩, stored', after, heq, hserial⟩

end Workspace
end TextTemplate
