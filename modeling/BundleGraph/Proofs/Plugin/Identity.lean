import BundleGraph.Plugin.Resolve

/-!
# The identities that requests lead to

Whoever answers a request, a plugin or the default resolver, the identity in the answer went
through `ModuleId.create`, and so both of its parts have characters.
-/

namespace BundleGraph

/-- Both parts of the identity have characters. -/
structure ModuleId.Valid (id : ModuleId) : Prop where
  path_ne : id.path ≠ ""
  space_ne : id.space ≠ ""

theorem ModuleId.create_valid {path space : String} {id : ModuleId}
    (h : ModuleId.create path space = .ok id) : id.Valid := by
  rw [create] at h
  split at h
  · cases h
  · split at h
    · cases h
    · rename_i hp hs
      cases h
      exact ⟨by simpa using hp, by simpa using hs⟩

theorem ModuleId.create_eq {path space : String} {id : ModuleId}
    (h : ModuleId.create path space = .ok id) : id = ⟨path, space⟩ := by
  rw [create] at h
  split at h
  · cases h
  · split at h
    · cases h
    · cases h; rfl

/-- A plugin's resolution is what the target says. -/
theorem Resolution.ofPlugin_eq {plugin : String} {t : Target} {r : Resolution}
    (h : ofPlugin plugin t = .ok r) :
    r = ⟨⟨t.path, t.space.getD fileSpace⟩, t.external, t.pluginData, some plugin⟩ := by
  rw [ofPlugin] at h
  split at h
  · cases h
  · cases ht : t.identity with
    | ok id => rw [ht] at h; cases h; rw [ModuleId.create_eq ht]
    | error e => rw [ht] at h; cases h

/-- A resolution by default is what the target says. -/
theorem Resolution.ofDefault_eq {t : Target} {r : Resolution} (h : ofDefault t = .ok r) :
    r = ⟨⟨t.path, t.space.getD fileSpace⟩, t.external, t.pluginData, none⟩ := by
  rw [ofDefault] at h
  cases ht : t.identity with
  | ok id => rw [ht] at h; cases h; rw [ModuleId.create_eq ht]
  | error e => rw [ht] at h; cases h

theorem Resolution.ofPlugin_valid {plugin : String} {t : Target} {r : Resolution}
    (h : ofPlugin plugin t = .ok r) : r.id.Valid := by
  rw [ofPlugin] at h
  split at h
  · cases h
  · cases ht : t.identity with
    | ok id => rw [ht] at h; cases h; exact ModuleId.create_valid ht
    | error e => rw [ht] at h; cases h

theorem Resolution.ofDefault_valid {t : Target} {r : Resolution} (h : ofDefault t = .ok r) :
    r.id.Valid := by
  rw [ofDefault] at h
  cases ht : t.identity with
  | ok id => rw [ht] at h; cases h; exact ModuleId.create_valid ht
  | error e => rw [ht] at h; cases h

theorem resolveByDefault_valid {fallback : DefaultResolver} {q : ResolveRequest}
    {r : Resolution} (h : (resolveByDefault fallback q).result = .ok r) : r.id.Valid := by
  obtain ⟨t, _, h⟩ := Work.result_bind_ok h
  cases t with
  | none => cases h
  | some t =>
    obtain ⟨r', hr, h⟩ := Work.result_bind_ok h
    obtain ⟨_, _, h⟩ := Work.result_bind_ok h
    cases h
    exact Resolution.ofDefault_valid hr

/-- The walk over handlers ends at one of them or at the default resolver. -/
theorem resolveWith_valid {fallback : DefaultResolver} {q : ResolveRequest}
    {hs : List (String × ResolverHandler)} {r : Resolution}
    (h : (resolveWith fallback q hs).result = .ok r) : r.id.Valid := by
  induction hs with
  | nil => exact resolveByDefault_valid h
  | cons ph hs ih =>
    obtain ⟨plugin, handler⟩ := ph
    rw [resolveWith] at h
    split at h
    · obtain ⟨_, _, h⟩ := Work.result_bind_ok h
      cases ha : handler.answer q with
      | error text => rw [ha] at h; cases h
      | ok t =>
        rw [ha] at h
        cases t with
        | none => exact ih h
        | some t =>
          obtain ⟨r', hr, h⟩ := Work.result_bind_ok h
          obtain ⟨_, _, h⟩ := Work.result_bind_ok h
          cases h
          exact Resolution.ofPlugin_valid hr
    · obtain ⟨_, _, h⟩ := Work.result_bind_ok h
      exact ih h

/-- Whatever the plugins answer, a resolved identity is valid. -/
theorem Registry.resolve_valid {registry : Registry} {fallback : DefaultResolver}
    {q : ResolveRequest} {r : Resolution} (h : (registry.resolve fallback q).result = .ok r) :
    r.id.Valid :=
  resolveWith_valid h

end BundleGraph
