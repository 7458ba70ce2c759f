import CrudBench.Settings.HostList

/-!
# Host pools

A pool hands out the hosts of a list in turn. Pools live in one table; the table knows which pool is
shared by everybody who asks for the same list of hosts.
-/

namespace CrudBench

/-- A list of hosts and the number of times a host was taken from it. -/
structure HostPool where
  hosts : HostList
  taken : Nat
  deriving DecidableEq

/-- Why there is no pool. -/
inductive HostPool.Invalid where
  | noHost
  deriving DecidableEq, Repr

/-- The wording of the error. -/
def HostPool.Invalid.message : HostPool.Invalid → String
  | noHost => "HostPool needs at least one host"

/-- The hosts that a pool is made for. -/
def HostPool.hostsOf (names : List String) : Except HostPool.Invalid HostList :=
  if h : names = [] then .error .noHost else .ok ⟨names, h⟩

/-- A pool from which nothing was taken. -/
def HostPool.new (hosts : HostList) : HostPool := ⟨hosts, 0⟩

/-- The host whose turn it is. -/
def HostPool.current (p : HostPool) : String := p.hosts.cycle p.taken

/-- The pool after one more host was taken. -/
def HostPool.advance (p : HostPool) : HostPool := { p with taken := p.taken + 1 }

/-- All pools, by their number, and the numbers of the shared ones. -/
structure HostPools where
  pools : List HostPool
  shared : List (HostList × Nat)
  deriving DecidableEq

namespace HostPools

/-- No pools. -/
def empty : HostPools := ⟨[], []⟩

/-- Adds a pool; its number comes with the result. -/
def add (t : HostPools) (hosts : HostList) : Nat × HostPools :=
  (t.pools.length, { t with pools := t.pools ++ [.new hosts] })

/-- The shared pool of a list of hosts, which is added if there is none. -/
def share (t : HostPools) (hosts : HostList) : Nat × HostPools :=
  match t.shared.lookup hosts with
  | some id => (id, t)
  | none =>
    let (id, t) := t.add hosts
    (id, { t with shared := t.shared ++ [(hosts, id)] })

/-- Takes a host from a pool. -/
def take? (t : HostPools) (id : Nat) : Option (String × HostPools) :=
  t.pools[id]?.map fun p => (p.current, { t with pools := t.pools.set id p.advance })

/-- Takes a host from the shared pool of a list of hosts. -/
def takeShared (t : HostPools) (hosts : HostList) : String × HostPools :=
  let (id, t) := t.share hosts
  (t.take? id).getD (hosts.cycle 0, t)

/-- Forgets which pools are shared. Whoever holds a pool keeps it. -/
def reset (t : HostPools) : HostPools := { t with shared := [] }

end HostPools

end CrudBench
