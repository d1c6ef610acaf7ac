import Mathlib.Data.List.Forall2
import SqlTemplate.Proofs.Execution.Protocol

/-!
Executions that mirror each other. Two steps, each on states of its own, mirror each other if they
give the same and keep the states related; executions that are made of such steps do so too.
-/

namespace SqlTemplate

variable {σ σ' ρ α β : Type} {related : σ → σ' → Prop}

/-- Steps that give the same and keep states related. -/
def Mirrors (related : σ → σ' → Prop) (step : StateM σ α) (image : StateM σ' α) : Prop :=
  ∀ s s', related s s' → (image s').1 = (step s).1 ∧ related (step s).2 (image s').2

namespace Mirrors

theorem pure (a : α) : Mirrors related (Pure.pure a) (Pure.pure a) :=
  fun _ _ before => ⟨rfl, before⟩

theorem bind {step : StateM σ α} {image : StateM σ' α} {next : α → StateM σ β}
    {next' : α → StateM σ' β} (first : Mirrors related step image)
    (rest : ∀ a, Mirrors related (next a) (next' a)) :
    Mirrors related (step >>= next) (image >>= next') := by
  intro s s' before
  obtain ⟨same, between⟩ := first s s' before
  rw [bind_apply, bind_apply, same]
  exact rest _ _ _ between

theorem mapM {step : α → StateM σ β} {image : α → StateM σ' β}
    (each : ∀ input, Mirrors related (step input) (image input)) (inputs : List α) :
    Mirrors related (inputs.mapM step) (inputs.mapM image) := by
  induction inputs with
  | nil => exact .pure []
  | cons input rest ih =>
      rw [List.mapM_cons, List.mapM_cons]
      exact (each input).bind fun output => ih.bind fun outputs => .pure (output :: outputs)

end Mirrors

inductive Param.Mirrored (related : σ → σ' → Prop) :
    Param (Compute σ) → Param (Compute σ') → Prop
  | named (name : String) (type : ParamType) :
      Mirrored related ⟨name, type, .named⟩ ⟨name, type, .named⟩
  | computed (name : String) (type : ParamType) {compute : Compute σ} {image : Compute σ'} :
      (∀ bag, Mirrors related (compute bag) (image bag)) →
      Mirrored related ⟨name, type, .computed compute⟩ ⟨name, type, .computed image⟩

namespace Statement

structure Mirrored (related : σ → σ' → Prop) (statement : Statement (Compute σ))
    (image : Statement (Compute σ')) : Prop where
  text : image.text = statement.text
  params : List.Forall₂ (Param.Mirrored related) statement.params image.params

variable {statement : Statement (Compute σ)} {image : Statement (Compute σ')}

theorem named_mirrored {params : List (Param (Compute σ))} {images : List (Param (Compute σ'))}
    (mirrored : List.Forall₂ (Param.Mirrored related) params images) :
    (images.filter fun param => !param.isComputed).map Param.name =
      (params.filter fun param => !param.isComputed).map Param.name := by
  induction mirrored with
  | nil => rfl
  | cons first _ ih =>
      cases first with
      | named name type => simpa [Param.isComputed] using ih
      | computed name type _ => simpa [Param.isComputed] using ih

theorem Mirrored.namedParams (mirrored : statement.Mirrored related image) :
    image.namedParams = statement.namedParams :=
  named_mirrored mirrored.params

theorem Mirrored.ofStatement (mirrored : statement.Mirrored related image) (tag : Option String) :
    Context.ofStatement image tag = Context.ofStatement statement tag := by
  rw [Context.ofStatement, Context.ofStatement, mirrored.namedParams, mirrored.text,
    mirrored.params.length_eq]

theorem checkAll_mirrored (bag : Args) {params : List (Param (Compute σ))}
    {images : List (Param (Compute σ'))}
    (mirrored : List.Forall₂ (Param.Mirrored related) params images) :
    checkAll bag images = checkAll bag params := by
  induction mirrored with
  | nil => rfl
  | cons first _ ih =>
      rw [checkAll, checkAll, ih]
      cases first <;> rfl

theorem supply_mirrors (bag : Args) {param : Param (Compute σ)} {image : Param (Compute σ')}
    (mirrored : Param.Mirrored related param image) :
    Mirrors related (supply bag param) (supply bag image) := by
  cases mirrored with
  | named name type => exact .pure _
  | computed name type computes => exact (computes bag).bind fun value => .pure _

theorem supplyAll_mirrors (bag : Args) {params : List (Param (Compute σ))}
    {images : List (Param (Compute σ'))}
    (mirrored : List.Forall₂ (Param.Mirrored related) params images) :
    Mirrors related (supplyAll bag params) (supplyAll bag images) := by
  induction mirrored with
  | nil => exact .pure _
  | cons first _ ih =>
      refine (supply_mirrors bag first).bind fun supplied => ?_
      cases supplied with
      | error e => exact .pure _
      | ok value =>
          refine ih.bind fun rest => ?_
          cases rest with
          | error e => exact .pure _
          | ok values => exact .pure _

theorem Mirrored.bind (mirrored : statement.Mirrored related image) (args : Option Args) :
    Mirrors related (statement.bind args) (image.bind args) := by
  rw [Statement.bind, Statement.bind, checkAll_mirrored _ mirrored.params]
  cases checkAll (args.getD .empty) statement.params with
  | error e => exact .pure _
  | ok => exact supplyAll_mirrors _ mirrored.params

end Statement

structure Hook.Mirrored (related : σ → σ' → Prop) (hook : Hook σ) (image : Hook σ') : Prop where
  before : ∀ context, Mirrors related (hook.before context) (image.before context)
  after : ∀ context elapsed outcome,
    Mirrors related (hook.after context elapsed outcome) (image.after context elapsed outcome)

namespace Query

/-- Queries whose parts mirror each other; the hooks need not, as long as their chains do. -/
structure Mirrored (related : σ → σ' → Prop) (query : Query σ ρ) (image : Query σ' ρ) : Prop where
  connection : ∀ text values,
    Mirrors related (query.connection.send text values) (image.connection.send text values)
  statement : query.statement.Mirrored related image.statement
  chain : Hook.Mirrored related (Hook.ofChain query.hooks) (Hook.ofChain image.hooks)
  tag : image.tag = query.tag

variable {query : Query σ ρ} {image : Query σ' ρ}

theorem Mirrored.context (mirrored : query.Mirrored related image) :
    image.context = query.context := by
  rw [Query.context, Query.context, mirrored.tag, mirrored.statement.ofStatement]

theorem Mirrored.execute (mirrored : query.Mirrored related image) (values : List Value) :
    Mirrors related (query.execute values) (image.execute values) := by
  -- One of them may have no hooks, so both are taken the way under hooks.
  rw [execute_eq_executeUnderHooks, execute_eq_executeUnderHooks, executeUnderHooks,
    executeUnderHooks, mirrored.context, mirrored.statement.text]
  refine (mirrored.chain.before query.context).bind fun action => ?_
  cases action with
  | abort reason => exact .pure _
  | proceed =>
      refine (mirrored.connection _ _).bind fun reply => ?_
      exact (mirrored.chain.after _ _ _).bind fun _ => .pure reply.result

theorem Mirrored.bind (mirrored : query.Mirrored related image) (args : Option Args) :
    Mirrors related (query.bind args) (image.bind args) := by
  refine (mirrored.statement.bind args).bind fun bound => ?_
  cases bound with
  | error e => exact .pure _
  | ok values => exact .pure _

theorem Mirrored.invoke (mirrored : query.Mirrored related image) (args : Option Args) :
    Mirrors related (query.invoke args) (image.invoke args) := by
  refine (mirrored.bind args).bind fun bound => ?_
  cases bound with
  | error e => exact .pure _
  | ok values => exact mirrored.execute values

end Query

variable {τ : Type}

def beside (step : StateM σ α) : StateM (σ × τ) α :=
  fun s => ((step s.1).1, ((step s.1).2, s.2))

theorem beside_mirrors (step : StateM σ α) (extra : τ) :
    Mirrors (fun s s' => s' = (s, extra)) step (beside step) := by
  rintro s _ rfl
  exact ⟨rfl, rfl⟩

def Source.beside : Source (Compute σ) → Source (Compute (σ × τ))
  | .named => .named
  | .computed compute => .computed fun bag => SqlTemplate.beside (compute bag)

def Param.beside (param : Param (Compute σ)) : Param (Compute (σ × τ)) :=
  ⟨param.name, param.type, param.source.beside⟩

def Statement.beside (statement : Statement (Compute σ)) : Statement (Compute (σ × τ)) :=
  ⟨statement.text, statement.params.map Param.beside⟩

def Connection.beside (connection : Connection σ ρ) : Connection (σ × τ) ρ :=
  ⟨fun text values => SqlTemplate.beside (connection.send text values)⟩

theorem Param.mirrored_beside (extra : τ) (param : Param (Compute σ)) :
    Param.Mirrored (fun s s' => s' = (s, extra)) param param.beside := by
  obtain ⟨name, type, source⟩ := param
  cases source with
  | named => exact .named name type
  | computed compute => exact .computed name type fun bag => beside_mirrors (compute bag) extra

theorem Statement.mirrored_beside (extra : τ) (statement : Statement (Compute σ)) :
    statement.Mirrored (fun s s' => s' = (s, extra)) statement.beside where
  text := rfl
  params := by
    rw [Statement.beside, List.forall₂_map_right_iff, List.forall₂_same]
    exact fun param _ => param.mirrored_beside extra

end SqlTemplate
