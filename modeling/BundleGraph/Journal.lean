import BundleGraph.Error

/-!
# The journal of a build

Work on a build notes what it does: the events that a reader of its log sees, and every
call of a plugin.  The notes are part of the value of the work, and work that fails keeps
the notes it made before.

## Main definitions

* `Event` — what a log shows, with its level, text and fields.
* `Note` — an entry of the journal.
* `Work` — a computation that notes what it does and may fail.
-/

namespace BundleGraph

/-- How much detail an event is. -/
inductive EventLevel where
  | trace
  | debug
  | info
  deriving DecidableEq, Repr

def EventLevel.name : EventLevel → String
  | .trace => "trace"
  | .debug => "debug"
  | .info => "info"

/-- What a log shows. -/
inductive Event where
  | pluginRegistered (plugin : String) (resolvers loaders : Nat)
  | resolverSkipped (plugin filter specifier : String)
  | resolverMatched (plugin specifier : String) (resolved : ModuleId)
  | defaultResolverUsed (specifier : String) (resolved : ModuleId)
  | loaderSkipped (plugin filter : String) (id : ModuleId)
  | loaderMatched (plugin : String) (id : ModuleId)
  | defaultLoaderUsed (id : ModuleId)
  /-- A relative specifier has no directory to start from. -/
  | directoryMissing (specifier : String)
  | buildStarted (entries plugins : Nat) (bundle : Bool)
  | externalModule (id : ModuleId)
  | moduleProcessed (id : ModuleId) (dependencies : Nat)
  | buildFinished (modules resolves loads : Nat)
  deriving DecidableEq, Repr

namespace Event

def level : Event → EventLevel
  | .pluginRegistered _ _ _ => .debug
  | .resolverSkipped _ _ _ => .trace
  | .resolverMatched _ _ _ => .debug
  | .defaultResolverUsed _ _ => .debug
  | .loaderSkipped _ _ _ => .trace
  | .loaderMatched _ _ => .debug
  | .defaultLoaderUsed _ => .debug
  | .directoryMissing _ => .trace
  | .buildStarted _ _ _ => .info
  | .externalModule _ => .debug
  | .moduleProcessed _ _ => .trace
  | .buildFinished _ _ _ => .info

def message : Event → String
  | .pluginRegistered _ _ _ => "registered plugin"
  | .resolverSkipped _ _ _ => "resolver skipped"
  | .resolverMatched _ _ _ => "resolver matched"
  | .defaultResolverUsed _ _ => "default resolver used"
  | .loaderSkipped _ _ _ => "loader skipped"
  | .loaderMatched _ _ => "loader matched"
  | .defaultLoaderUsed _ => "default loader used"
  | .directoryMissing _ => "no resolve dir for relative specifier"
  | .buildStarted _ _ _ => "starting build"
  | .externalModule _ => "external module"
  | .moduleProcessed _ _ => "module processed"
  | .buildFinished _ _ _ => "build finished"

def fields : Event → List (String × Json)
  | .pluginRegistered plugin resolvers loaders =>
    [("plugin", .str plugin), ("resolvers", .ofNat resolvers), ("loaders", .ofNat loaders)]
  | .resolverSkipped plugin filter specifier =>
    [("plugin", .str plugin), ("filter", .str filter), ("specifier", .str specifier)]
  | .resolverMatched plugin specifier resolved =>
    [("plugin", .str plugin), ("specifier", .str specifier), ("resolved", .str resolved.display)]
  | .defaultResolverUsed specifier resolved =>
    [("specifier", .str specifier), ("resolved", .str resolved.display)]
  | .loaderSkipped plugin filter id =>
    [("plugin", .str plugin), ("filter", .str filter), ("module", .str id.display)]
  | .loaderMatched plugin id => [("plugin", .str plugin), ("module", .str id.display)]
  | .defaultLoaderUsed id => [("module", .str id.display)]
  | .directoryMissing specifier => [("specifier", .str specifier)]
  | .buildStarted entries plugins bundle =>
    [("entries", .ofNat entries), ("plugins", .ofNat plugins), ("bundle", .bool bundle)]
  | .externalModule id => [("module", .str id.display)]
  | .moduleProcessed id dependencies =>
    [("module", .str id.display), ("dependencies", .ofNat dependencies)]
  | .buildFinished modules resolves loads =>
    [("modules", .ofNat modules), ("resolves", .ofNat resolves), ("loads", .ofNat loads)]

end Event

/-- An entry of the journal.  `mark` is what the plugin's author put on the handler called. -/
inductive Note where
  | event (e : Event)
  | resolverCalled (mark : Option Json) (request : ResolveRequest)
  | loaderCalled (mark : Option Json) (request : LoadRequest)
  deriving DecidableEq, Repr

def eventsOf (notes : List Note) : List Event :=
  notes.filterMap fun n =>
    match n with
    | .event e => some e
    | _ => none

/-- What work noted, and what came of it. -/
structure Work (α : Type) where
  notes : List Note
  result : Except BuildError α

namespace Work

/-- Work that does nothing. -/
def done (a : α) : Work α := ⟨[], .ok a⟩

def fail (e : BuildError) : Work α := ⟨[], .error e⟩

def note (n : Note) : Work Unit := ⟨[n], .ok ()⟩

def tell (e : Event) : Work Unit := note (.event e)

/-- Work after work; a failure ends it. -/
def andThen (w : Work α) (f : α → Work β) : Work β :=
  match w.result with
  | .ok a => ⟨w.notes ++ (f a).notes, (f a).result⟩
  | .error e => ⟨w.notes, .error e⟩

instance : Monad Work where
  pure := done
  bind := andThen

/-- Work whose outcome is known. -/
def ofExcept (r : Except BuildError α) : Work α := ⟨[], r⟩

@[simp] theorem notes_pure (a : α) : (pure a : Work α).notes = [] := rfl

@[simp] theorem result_pure (a : α) : (pure a : Work α).result = .ok a := rfl

@[simp] theorem result_ofExcept (r : Except BuildError α) : (ofExcept r).result = r := rfl

@[simp] theorem result_note (n : Note) : (note n).result = .ok () := rfl

@[simp] theorem result_tell (e : Event) : (tell e).result = .ok () := rfl

theorem bind_ok {w : Work α} {f : α → Work β} {a : α} (h : w.result = .ok a) :
    w >>= f = ⟨w.notes ++ (f a).notes, (f a).result⟩ := by
  show w.andThen f = _
  simp [andThen, h]

theorem bind_error {w : Work α} {f : α → Work β} {e : BuildError} (h : w.result = .error e) :
    w >>= f = ⟨w.notes, .error e⟩ := by
  show w.andThen f = _
  simp [andThen, h]

theorem result_bind (w : Work α) (f : α → Work β) :
    (w >>= f).result = w.result.bind fun a => (f a).result := by
  cases h : w.result with
  | ok a => rw [bind_ok h]; rfl
  | error e => rw [bind_error h]; rfl

/-- Work after work succeeds when both do. -/
theorem result_bind_ok {w : Work α} {f : α → Work β} {b : β} (h : (w >>= f).result = .ok b) :
    ∃ a, w.result = .ok a ∧ (f a).result = .ok b := by
  cases hw : w.result with
  | ok a =>
    rw [bind_ok hw] at h
    exact ⟨a, rfl, h⟩
  | error e =>
    rw [bind_error hw] at h
    cases h

end Work

end BundleGraph
