namespace PixelPipeline.Text

def timeUnit (nanoseconds : Nat) : Nat × String :=
  if 1000000000 ≤ nanoseconds then (1000000000, "s")
  else if 1000000 ≤ nanoseconds then (1000000, "ms")
  else if 1000 ≤ nanoseconds then (1000, "µs")
  else (1, "ns")

def elapsed (nanoseconds : Nat) : String :=
  let (unit, name) := timeUnit nanoseconds
  let hundredths := (100 * nanoseconds + unit / 2) / unit
  s!"{hundredths / 100}.{hundredths / 10 % 10}{hundredths % 10}{name}"

end PixelPipeline.Text
