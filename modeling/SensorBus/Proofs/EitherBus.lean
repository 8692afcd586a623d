import SensorBus.Proofs.I2c.Setting
import SensorBus.Proofs.I2c.Stepping
import SensorBus.Proofs.Spi.Setting
import SensorBus.Proofs.Spi.Stepping

namespace SensorBus

/-- On a bus whose settings start out unknown a transaction that carries a setting finds it applied
last, whoever else uses the bus and however they are polled and dropped; and a setting is applied
only for a transaction that carries it and goes onto the bus, and only if another one was applied
last or the bus was reset since. -/
theorem settings_follow_transactions {σ α τ β : Type} :
    (∀ (bus : I2c.Bus) (starts : List (σ × Operation I2c.interface σ α))
        (steps : List (Pool.Step I2c.Intervention)),
      let watched := I2c.SharedBus.settings.watch I2c.SharedBus.medium I2c.SharedBus.intervene
        { master := { bus } } starts steps
      watched.unwatched =
          (Pool.launch { master := { bus } } starts).run I2c.SharedBus.intervene steps ∧
        watched.world.2.Faithful I2c.SharedBus.settings.terms) ∧
    (∀ (bus : Spi.Bus) (starts : List (τ × Operation Spi.interface τ β))
        (steps : List (Pool.Step Spi.Intervention)),
      let watched := Spi.SharedBus.settings.watch Spi.SharedBus.medium Spi.SharedBus.intervene
        { bus } starts steps
      watched.unwatched = (Pool.launch { bus } starts).run Spi.SharedBus.intervene steps ∧
        watched.world.2.Faithful Spi.SharedBus.settings.terms) :=
  ⟨fun _ starts steps => I2c.SharedBus.settings_lawful.watch rfl starts steps,
    fun _ starts steps => Spi.SharedBus.settings_lawful.watch rfl starts steps⟩

/-- An operation that has its bus to itself is suspended as often as the bus yields: that many times
for each transaction on an I2C bus, and for each call that is made on an SPI bus, also for one that
fails. Then it comes to what it comes to when it is carried out at once. -/
theorem stepping_comes_to_the_same {σ α τ β : Type} :
    (∀ (op : Operation I2c.interface σ α) (state : σ) (master : I2c.Master),
      ∃ value driver after,
        op.carryOut I2c.SharedBus.medium none state { master } = (.value value, driver, after) ∧
        op.Steps I2c.SharedBus.medium state { master }
          (master.bus.yields *
            (op state).calls I2c.SharedBus.medium I2c.SharedBus.yieldsFor { master })
          value driver after) ∧
    (∀ (op : Operation Spi.interface τ β) (state : τ) (bus : Spi.Bus) (applied : Option Spi.Mode),
      ∃ value driver after,
        op.carryOut Spi.SharedBus.medium none state { bus, applied } =
          (.value value, driver, after) ∧
        op.Steps Spi.SharedBus.medium state { bus, applied }
          (bus.yields *
            (op state).calls Spi.SharedBus.medium Spi.SharedBus.yieldsFor { bus, applied })
          value driver after) := by
  constructor
  · intro op state master
    have start : I2c.SharedBus.Alone master.bus.yields master.bus.delaysSuspend { master } :=
      ⟨rfl, rfl, rfl⟩
    have punctual := I2c.SharedBus.punctual master.bus.yields master.bus.delaysSuspend
    refine ⟨_, _, _, rfl, ?_⟩
    rw [← punctual.length_suspensions (op state) start I2c.SharedBus.length_places]
    exact punctual.steps op state start
  · intro op state bus applied
    have start : Spi.SharedBus.Alone bus.yields { bus, applied } := ⟨rfl, rfl⟩
    have punctual := Spi.SharedBus.punctual bus.yields
    refine ⟨_, _, _, rfl, ?_⟩
    rw [← punctual.length_suspensions (op state) start Spi.SharedBus.length_places]
    exact punctual.steps op state start

end SensorBus
