namespace SensorBus.Checksum

def offset : UInt64 := 0xcbf29ce484222325

def prime : UInt64 := 0x100000001b3

def ofBytes (bytes : List UInt8) : UInt64 :=
  bytes.foldl (fun hash byte => (hash ^^^ byte.toUInt64) * prime) offset

end SensorBus.Checksum
