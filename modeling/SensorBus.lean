import SensorBus.Bme280.Basic
import SensorBus.Bme280.Compensation
import SensorBus.Bme280.Reference
import SensorBus.Checksum
import SensorBus.I2c.Session
import SensorBus.Job.Countdown
import SensorBus.Lis3.Transport
import SensorBus.Lis302dl.Basic
import SensorBus.Proofs.EitherBus
import SensorBus.Proofs.I2c.Attachment
import SensorBus.Proofs.I2c.Isolation
import SensorBus.Proofs.I2c.Serial
import SensorBus.Proofs.Spi.Serial
import SensorBus.Spi.Session
import SensorBus.Ssd1306.Display
import SensorBus.Ssd1306.Image
import SensorBus.Proofs.I2c.Stepping
import SensorBus.Proofs.Spi.Stepping
import SensorBus.Proofs.I2c.Cancellation
import SensorBus.Proofs.Lis302dl.Action
import SensorBus.Proofs.Lis302dl.OverI2c
import SensorBus.Proofs.Job.Keeping
import SensorBus.Proofs.Lis302dl.OverSpi
import SensorBus.Proofs.Lis302dl.Bench
import SensorBus.Proofs.Lis302dl.Coherence
import SensorBus.Proofs.Lis3.Plain
import SensorBus.Proofs.I2c.Registers
import SensorBus.Proofs.Lis3.OverI2c
import SensorBus.Proofs.Lis3.OverSpi
import SensorBus.Proofs.Lis302dl.Service
import SensorBus.Proofs.Lis302dl.EitherBus
import SensorBus.Proofs.Lis302dl.Reliable
import SensorBus.Proofs.Lis302dl.Range
import SensorBus.Proofs.I2c.Lifecycle
import SensorBus.Proofs.Job.SlotHistory
import SensorBus.Proofs.Bme280.Accuracy
import SensorBus.Proofs.Bme280.Humidity
import SensorBus.Proofs.Bme280.Monotone
import SensorBus.Proofs.Bme280.Untorn
import SensorBus.Proofs.Bme280.Discipline
import SensorBus.Proofs.I2c.Normalization
import SensorBus.Proofs.Bme280.Trimming
import SensorBus.Proofs.Bme280.Polling
import SensorBus.Proofs.Bursts
import SensorBus.Proofs.I2c.Update
import SensorBus.Proofs.Job.Endings
import SensorBus.Proofs.Lis302dl.Fields
import SensorBus.Proofs.I2c.SideBySide
import SensorBus.Proofs.I2c.Writes
import SensorBus.Proofs.I2c.Replies
import SensorBus.Proofs.Ssd1306.Calls
import SensorBus.Proofs.Ssd1306.Shown
import SensorBus.Proofs.Ssd1306.Routines
import SensorBus.Proofs.Ssd1306.Upscaling
