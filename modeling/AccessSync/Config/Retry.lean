/-!
# Retries

How often a request is tried again, and how long to wait before each new try. Waits double from an
initial one up to a limit; the arithmetic stays within 64 bits and stops at the largest word.
-/

namespace AccessSync

/-- How often to try again, and the waits in milliseconds. -/
structure Retry where
  maxRetries : UInt32
  initialWait : UInt64
  maxWait : UInt64
deriving DecidableEq, Repr

namespace Retry

/-- So many retries, with waits from half a second to half a minute. -/
def upTo (maxRetries : UInt32) : Retry := ⟨maxRetries, 500, 30000⟩

/-- The usual number of retries. -/
def usual : Retry := upTo 3

/-- No retry at all. -/
def never : Retry := upTo 0

/-- The word for a number, or the largest word if it has none. -/
def capWord (n : Nat) : UInt64 := UInt64.ofNat (if n < UInt64.size then n else UInt64.size - 1)

/-- The power of two, or the largest word. -/
def powerOfTwo (exponent : UInt32) : UInt64 :=
  UInt64.ofNat (if exponent < 64 then 1 <<< exponent.toNat else UInt64.size - 1)

/-- The product, or the largest word. -/
def capMul (a b : UInt64) : UInt64 := capWord (a.toNat * b.toNat)

/-- The wait before the retry with the given number; the first one has the number 0. -/
def wait (r : Retry) (number : UInt32) : UInt64 :=
  min (capMul r.initialWait (powerOfTwo number)) r.maxWait

end Retry

end AccessSync
