import McpgOperator.Plugin.OciPull
import McpgOperator.PluginSet.Types

/-!
# Resolving a plugin-set entry

`resolve_entry` of `controllers/plugin_set.rs`: the entry's plugin is read
once, spec and status together, and either rejected for the first reason
that applies or taken into the set with the version and class of its spec and
the Secret and digest of its status.
-/

namespace McpgOperator.PluginSet

open McpgOperator.Kube McpgOperator.Plugin

namespace FailReason

def pluginNotFound : String := "PluginNotFound"

def pluginNotReady : String := "PluginNotReady"

def pluginRevoked : String := "PluginRevoked"

def pluginIdMismatch : String := "PluginIdMismatch"

def artefactSecretMissing : String := "ArtefactSecretMissing"

end FailReason

structure ResolvedEntry where
  entryId : String
  pluginName : String
  pluginVersion : String
  pluginClass : String
  artefactSecretName : String
  resolvedDigest : String
  config : Json
  deriving DecidableEq

structure EntryRejection where
  reason : String
  message : String
  deriving DecidableEq, Repr

/-- `revokedBySha` of a status that may be absent. -/
def revoked (status : Option MCPGPluginStatus) : Bool :=
  (status.bind (·.revokedBySha)).getD false

/-- The Ready test on a status that may be absent. -/
def ready (status : Option MCPGPluginStatus) : Bool :=
  (status.map fun s => readyTrue s.conditions).getD false

/-- `resolve_entry`; `answer` is what `get_opt` of the referenced plugin
returns. -/
def resolveEntry (answer : Except KubeError (Option MCPGPlugin))
    (entry : MCPGPluginSetEntry) : Except EntryRejection ResolvedEntry :=
  match answer with
  | .ok none =>
      .error
        { reason := FailReason.pluginNotFound
          message := "MCPGPlugin/" ++ entry.pluginRef ++ " does not exist" }
  | .error e =>
      .error
        { reason := FailReason.pluginNotFound
          message := "MCPGPlugin/" ++ entry.pluginRef ++ " lookup failed: " ++
            displayKube e }
  | .ok (some plugin) =>
      if plugin.spec.pluginId ≠ entry.id then
        .error
          { reason := FailReason.pluginIdMismatch
            message := "entry.id `" ++ entry.id ++ "` != MCPGPlugin/" ++
              entry.pluginRef ++ ".spec.pluginId `" ++
              plugin.spec.pluginId ++ "`" }
      else if revoked plugin.status then
        .error
          { reason := FailReason.pluginRevoked
            message := "MCPGPlugin/" ++ entry.pluginRef ++
              " status.revokedBySha=true; consuming sets refuse to render" }
      else if ready plugin.status = false then
        .error
          { reason := FailReason.pluginNotReady
            message := "MCPGPlugin/" ++ entry.pluginRef ++
              " status.conditions[Ready] != True" }
      else
        match (plugin.status.bind (·.artefactSecretName)).filter
            (· ≠ "") with
        | none =>
            .error
              { reason := FailReason.artefactSecretMissing
                message := "MCPGPlugin/" ++ entry.pluginRef ++
                  " status.artefactSecretName is unset (controller hasn't " ++
                  "materialised yet)" }
        | some artefactSecretName =>
            .ok
              { entryId := entry.id
                pluginName := entry.pluginRef
                pluginVersion := plugin.spec.version
                pluginClass := plugin.spec.pluginClass
                artefactSecretName := artefactSecretName
                resolvedDigest :=
                  (plugin.status.bind (·.resolvedDigest)).getD ""
                config := entry.config.getD .null }

/-- When an entry resolves, and to what. -/
theorem resolveEntry_ok_iff {plugin : MCPGPlugin} {entry : MCPGPluginSetEntry}
    {r : ResolvedEntry} :
    resolveEntry (.ok (some plugin)) entry = .ok r ↔
      plugin.spec.pluginId = entry.id ∧ revoked plugin.status = false ∧
      ready plugin.status = true ∧
      (∃ s, plugin.status.bind (·.artefactSecretName) = some s ∧ s ≠ "" ∧
        r =
          { entryId := entry.id
            pluginName := entry.pluginRef
            pluginVersion := plugin.spec.version
            pluginClass := plugin.spec.pluginClass
            artefactSecretName := s
            resolvedDigest :=
              (plugin.status.bind (·.resolvedDigest)).getD ""
            config := entry.config.getD .null }) := by
  constructor
  · intro h
    simp only [resolveEntry] at h
    split at h
    · cases h
    · next hid =>
        split at h
        · cases h
        · next hrev =>
            split at h
            · cases h
            · next hready =>
                split at h
                · cases h
                · next s hs =>
                    obtain ⟨hs, hne⟩ := Option.filter_eq_some_iff.mp hs
                    cases h
                    exact ⟨Decidable.not_not.mp hid, by simpa using hrev,
                      by simpa using hready, s, hs,
                      of_decide_eq_true hne, rfl⟩
  · rintro ⟨hid, hrev, hready, s, hs, hne, rfl⟩
    have hfilter : (some s).filter (· ≠ "") = some s :=
      Option.filter_eq_some_iff.mpr ⟨rfl, by simpa using hne⟩
    simp only [resolveEntry, hid, hrev, hready, hs, hfilter]
    simp

end McpgOperator.PluginSet
