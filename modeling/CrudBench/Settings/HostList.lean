import CrudBench.Text.Blank

/-!
# Host lists

The hosts of a cluster are given as one text, separated by commas. Blanks around a name and empty
entries do not count; a text without a single name is no host list.
-/

namespace CrudBench

/-- The host names in use, at least one. -/
structure HostList where
  names : List String
  nonempty : names ≠ []
  deriving DecidableEq

namespace HostList

/-- The names in a comma-separated text. -/
def namesIn (raw : String) : List String :=
  (((raw.toList.splitOn ',').map Text.trimChars).filter (!·.isEmpty)).map String.ofList

/-- The host list of a comma-separated text, if it names a host. -/
def parse? (raw : String) : Option HostList :=
  if h : namesIn raw = [] then none else some ⟨namesIn raw, h⟩

/-- The names, separated by commas. -/
def text (hosts : HostList) : String := ",".intercalate hosts.names

/-- The host at a position, counted around the list. -/
def cycle (hosts : HostList) (i : Nat) : String :=
  hosts.names.get ⟨i % hosts.names.length, Nat.mod_lt _ (List.length_pos_iff.2 hosts.nonempty)⟩

end HostList

end CrudBench
